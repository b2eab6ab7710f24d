import Mathlib.Algebra.Group.Nat.Even
import Mathlib.Data.List.Induction
import QueryCriteria.Proofs.Pattern.Escape

/-!
What a wildcard text means, without a matcher, and the wildcards that are made of LIKE texts: each accepts
the texts that match the LIKE text, and every backslash in it has a character behind it.
-/
namespace QueryCriteria.Pattern

/--
The texts that a wildcard accepts: an asterisk stands for any run of characters, a question mark for any
single one, and behind a backslash a character stands for itself. There is no rule for a backslash at the
very end, so a wildcard that ends in an unpaired one accepts nothing.
-/
inductive WildcardAccepts : List Char → List Char → Prop where
  | nil : WildcardAccepts [] []
  | run {wildcard text : List Char} (skipped : List Char) (h : WildcardAccepts wildcard text) :
      WildcardAccepts ('*' :: wildcard) (skipped ++ text)
  | one {wildcard text : List Char} (c : Char) (h : WildcardAccepts wildcard text) :
      WildcardAccepts ('?' :: wildcard) (c :: text)
  | escaped {wildcard text : List Char} (c : Char) (h : WildcardAccepts wildcard text) :
      WildcardAccepts ('\\' :: c :: wildcard) (c :: text)
  | plain {c : Char} {wildcard text : List Char} (hc : c ∉ ['*', '?', '\\'])
      (h : WildcardAccepts wildcard text) : WildcardAccepts (c :: wildcard) (c :: text)

namespace Token

theorem toWildcard_literal (c : Char) :
    (literal c).toWildcard = if c ∈ ['*', '?', '\\'] then ['\\', c] else [c] := by
  have hspecial : (c == '*' || c == '?' || c == '\\') = true ↔ c ∈ ['*', '?', '\\'] := by
    simp [or_assoc]
  simp only [toWildcard, hspecial]

end Token

/-- A wildcard that was made of tokens accepts the texts that belong to them. -/
theorem wildcardAccepts_flatMap_iff {tokens : Pattern} {text : List Char} :
    WildcardAccepts (tokens.flatMap Token.toWildcard) text ↔ Matches tokens text := by
  constructor
  · intro h
    induction tokens generalizing text with
    | nil =>
      cases h
      exact .nil
    | cons token tokens ih =>
      rw [List.flatMap_cons] at h
      -- The cases of what is accepted need a variable for the rest of the wildcard.
      generalize tokens.flatMap Token.toWildcard = rest at h ih
      cases token with
      | run =>
        cases h with
        | run skipped h => exact .run skipped (ih h)
        | plain hc => exact absurd List.mem_cons_self hc
      | one =>
        cases h with
        | one c h => exact .one c (ih h)
        | plain hc => exact absurd (by decide) hc
      | literal c =>
        rw [Token.toWildcard_literal] at h
        split_ifs at h with hc
        · cases h with
          | escaped _ h => exact .literal c (ih h)
          | plain hb => exact absurd (by decide) hb
        · cases h with
          | plain _ h => exact .literal c (ih h)
          | run | one | escaped => exact absurd (by decide) hc
  · intro h
    induction h with
    | nil => exact .nil
    | run skipped _ ih => exact .run skipped ih
    | one c _ ih => exact .one c ih
    | @literal tokens text c _ ih =>
      rw [List.flatMap_cons, Token.toWildcard_literal]
      split_ifs with hc
      · exact .escaped c ih
      · exact .plain hc ih

/-- The backslashes that a text ends in. -/
def trailingBackslashes (text : List Char) : List Char :=
  text.reverse.takeWhile (· == '\\')

theorem trailingBackslashes_append (text : List Char) {c : Char} (hc : c ≠ '\\') :
    trailingBackslashes (text ++ [c]) = [] := by
  simp [trailingBackslashes, hc]

/-- A backslash stands at the end of a wildcard only behind another one that escapes it. -/
theorem even_trailingBackslashes (tokens : Pattern) :
    Even (trailingBackslashes (tokens.flatMap Token.toWildcard)).length := by
  induction tokens using List.reverseRecOn with
  | nil => exact Even.zero
  | append_singleton tokens token ih =>
    rw [List.flatMap_append, List.flatMap_singleton]
    cases token with
    | run => simp [Token.toWildcard, trailingBackslashes_append]
    | one => simp [Token.toWildcard, trailingBackslashes_append]
    | literal c =>
      by_cases hb : c = '\\'
      · subst hb
        have htwo : trailingBackslashes (tokens.flatMap Token.toWildcard ++ ['\\', '\\']) =
            '\\' :: '\\' :: trailingBackslashes (tokens.flatMap Token.toWildcard) := by
          simp [trailingBackslashes]
        change Even (trailingBackslashes (_ ++ ['\\', '\\'])).length
        rw [htwo]
        simpa [Nat.even_add_one] using ih
      · rw [Token.toWildcard_literal]
        split_ifs
        · have hsplit := List.append_assoc (tokens.flatMap Token.toWildcard) ['\\'] [c]
          change Even (trailingBackslashes (_ ++ (['\\'] ++ [c]))).length
          rw [← hsplit, trailingBackslashes_append _ hb]
          exact Even.zero
        · rw [trailingBackslashes_append _ hb]
          exact Even.zero

/--
The wildcard that is made of a LIKE text accepts exactly the texts that match the LIKE text. It never ends
in an unpaired backslash: the backslashes at its end are an even number.
-/
theorem likeToWildcard_keeps_language (pattern text : String) :
    (WildcardAccepts (likeToWildcard pattern).toList text.toList ↔ like text pattern = true) ∧
      Even (trailingBackslashes (likeToWildcard pattern).toList).length := by
  rw [likeToWildcard, String.toList_ofList, like, accepts_iff]
  exact ⟨wildcardAccepts_flatMap_iff, even_trailingBackslashes _⟩

end QueryCriteria.Pattern
