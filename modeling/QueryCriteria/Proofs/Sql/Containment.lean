import QueryCriteria.Proofs.Pattern.Escape
import QueryCriteria.Sql.Condition

/-!
Texts inside of texts. A test for a part of a text, or for its beginning, becomes a comparison with one
LIKE pattern in which the operand stands escaped; a database that matches patterns as they are matched here
finds what the test accepts.
-/
namespace QueryCriteria

theorem toList_infix_iff {v s : String} :
    v.toList <:+: s.toList ↔ ∃ before after, s = before ++ v ++ after := by
  constructor
  · rintro ⟨before, after, h⟩
    refine ⟨.ofList before, .ofList after, String.toList_inj.mp ?_⟩
    rw [String.toList_append, String.toList_append, String.toList_ofList, String.toList_ofList, h]
  · rintro ⟨before, after, rfl⟩
    exact ⟨before.toList, after.toList, by rw [String.toList_append, String.toList_append]⟩

theorem toList_prefix_iff {v s : String} : v.toList <+: s.toList ↔ ∃ rest, s = v ++ rest := by
  constructor
  · rintro ⟨rest, h⟩
    refine ⟨.ofList rest, String.toList_inj.mp ?_⟩
    rw [String.toList_append, String.toList_ofList, h]
  · rintro ⟨rest, rfl⟩
    exact ⟨rest.toList, by rw [String.toList_append]⟩

/-- The SQL text for a filter compares its column with one pattern, and this is what is bound to it. -/
structure Filter.BoundAsLike (f : Filter) (pattern : String) : Prop where
  text : Sql.render (Sql.Condition.ofFilter f).tokens =
    Sql.quoteIdentifier f.field.text ++ " LIKE $1"
  bound : Sql.params (Sql.Condition.ofFilter f).tokens = [.text pattern]

namespace Sql

/-- A filter whose condition compares with a pattern. -/
private theorem boundAsLike {f : Filter} {pattern : String}
    (h : Condition.ofFilter f = .compare f.field.text .like (.text pattern)) : f.BoundAsLike pattern := by
  constructor
  · rw [h]
    exact congrArg (quoteIdentifier f.field.text ++ ·) (by decide : " LIKE " ++ ("$1" ++ "") = " LIKE $1")
  · rw [h]
    rfl

/--
An escaped text between two percent signs matches the texts that it is a part of, and before a percent sign
those that begin with it. These are the patterns that are bound for CONTAINS and BEGINS_WITH, and on every
text they give the verdict of the test.
-/
theorem escaped_patterns_contain (s v : String) :
    (Pattern.like s ("%" ++ Pattern.escapeLike v ++ "%") = true ↔
      ∃ before after, s = before ++ v ++ after) ∧
    (Pattern.like s (Pattern.escapeLike v ++ "%") = true ↔ ∃ rest, s = v ++ rest) ∧
    ∀ field : FieldName,
      (Filter.BoundAsLike ⟨field, .text .contains v⟩ ("%" ++ Pattern.escapeLike v ++ "%") ∧
        (Test.text .contains v).holds (.text s) =
          Pattern.like s ("%" ++ Pattern.escapeLike v ++ "%")) ∧
      Filter.BoundAsLike ⟨field, .text .beginsWith v⟩ (Pattern.escapeLike v ++ "%") ∧
        (Test.text .beginsWith v).holds (.text s) = Pattern.like s (Pattern.escapeLike v ++ "%") := by
  have hcontains := Pattern.like_run_escapeLike_run v s
  have hbegins := Pattern.like_escapeLike_run v s
  refine ⟨?_, ?_, fun field => ⟨⟨boundAsLike rfl, hcontains.symm⟩, boundAsLike rfl, hbegins.symm⟩⟩
  · rw [hcontains, Pattern.occursIn_iff, toList_infix_iff]
  · rw [hbegins, List.isPrefixOf_iff_prefix, toList_prefix_iff]

end Sql

end QueryCriteria
