import QueryCriteria.Proofs.Dynamo.Placeholder
import QueryCriteria.Proofs.Dynamo.Predicate

/-!
The lexemes of filter expressions: every placeholder is a word of its own, whatever its numbers are, and
the text of a clause is cut into the lexemes that it is put together of.
-/
namespace QueryCriteria.Dynamo

open Text (Lexeme Alphabet Formula)
open Text.Formula (joined)

private theorem word_toString (n : Nat) : (toString n).toList.all alphabet.word = true := by
  refine List.all_eq_true.mpr fun c hc => ?_
  rw [Decimal.toList_toString] at hc
  have hd : c.isDigit = true := Nat.isDigit_of_mem_toDigits (by decide) (by decide) hc
  simp [alphabet, Char.isAlphanum, hd]

private theorem lexes_placeholder {start : String}
    (hw : start.toList.all alphabet.word = true) (n : Nat) :
    alphabet.Lexes (start ++ toString n) [.word (start ++ toString n)] := by
  refine Alphabet.lexes_word rfl rfl ?_ ?_
  · intro he
    have hl := congrArg String.toList he
    rw [String.toList_append, Decimal.toList_toString] at hl
    exact Decimal.toDigits_ne_nil n (List.append_eq_nil_iff.mp hl).2
  · rw [← List.all_eq_true, String.toList_append, List.all_append, hw, word_toString]
    rfl

theorem lexes_namePlaceholder (n : Nat) :
    alphabet.Lexes (namePlaceholder n) [.word (namePlaceholder n)] :=
  lexes_placeholder rfl n

/-- The placeholders of values are words. -/
theorem lexes_of_mem_values {n : Nat} {clause : Clause} {entry : String × Json}
    (h : entry ∈ clause.values n) : alphabet.Lexes entry.1 [.word entry.1] := by
  cases clause with
  | isIn members | notIn members =>
    obtain ⟨member, _, rfl⟩ := List.mem_map.mp h
    refine lexes_placeholder ?_ member.2
    rw [valuePlaceholder, String.toList_append, String.toList_append, List.all_append,
      List.all_append, word_toString]
    rfl
  | _ =>
    obtain rfl := List.mem_singleton.mp h
    exact lexes_placeholder rfl n

/-- The placeholders of the values of a clause, with commas between them. -/
def Clause.placeLexemes (clause : Clause) (n : Nat) : List Lexeme :=
  joined (.mark ',') (((clause.values n).map (·.1)).map fun s => [.word s])

theorem lexes_places (clause : Clause) (n : Nat) :
    alphabet.Lexes (Text.join ", " ((clause.values n).map (·.1))) (clause.placeLexemes n) := by
  have hsep : alphabet.Lexes ", " [.mark ','] := rfl
  refine Formula.lexes_join hsep rfl rfl ?_
  rw [List.forall₂_map_right_iff, List.forall₂_same]
  intro place hp
  obtain ⟨entry, he, rfl⟩ := List.mem_map.mp hp
  exact lexes_of_mem_values he

/-- The lexemes of the text of a clause with its number. -/
def Clause.lexemes (clause : Clause) (n : Nat) : List Lexeme :=
  let name := Lexeme.word (namePlaceholder n)
  let places := clause.placeLexemes n
  match clause with
  | .isNull =>
    [.mark '(', .word "attribute_not_exists", .mark '(', name, .mark ')', .word "OR",
      .word "attribute_type", .mark '(', name, .mark ','] ++ places ++ [.mark ')', .mark ')']
  | .isNotNull =>
    [.mark '(', .word "attribute_exists", .mark '(', name, .mark ')', .word "AND", .word "NOT",
      .word "attribute_type", .mark '(', name, .mark ','] ++ places ++ [.mark ')', .mark ')']
  | .compare comparison _ => [name, .sign comparison.text] ++ places
  | .contains _ => [.word "contains", .mark '(', name, .mark ','] ++ places ++ [.mark ')']
  | .beginsWith _ => [.word "begins_with", .mark '(', name, .mark ','] ++ places ++ [.mark ')']
  | .isIn _ => [name, .word "IN", .mark '('] ++ places ++ [.mark ')']
  | .notIn _ =>
    [.word "NOT", .mark '(', name, .word "IN", .mark '('] ++ places ++ [.mark ')', .mark ')']

/-- The arguments of a function, up to its closing bracket. -/
private theorem lexes_arguments {start places : String} {ls ms : List Lexeme}
    (hstart : alphabet.Lexes start ls) (hend : alphabet.endsLoose start = true) (n : Nat)
    (hplaces : alphabet.Lexes places ms) :
    alphabet.Lexes (start ++ namePlaceholder n ++ ", " ++ places)
      (ls ++ [.word (namePlaceholder n)] ++ [.mark ','] ++ ms) := by
  have hcomma : alphabet.Lexes ", " [.mark ','] := rfl
  exact ((hstart.append_end (lexes_namePlaceholder n) hend).append hcomma rfl).append_end hplaces
    (Alphabet.endsLoose_append rfl)

theorem lexes_clause (clause : Clause) (n : Nat) :
    alphabet.Lexes (clause.text n) (clause.lexemes n) := by
  have hname := lexes_namePlaceholder n
  have hplaces := lexes_places clause n
  have hclose : alphabet.Lexes ")" [.mark ')'] := rfl
  have hcloses : alphabet.Lexes "))" [.mark ')', .mark ')'] := rfl
  have hin : alphabet.Lexes " IN (" [.word "IN", .mark '('] := rfl
  cases clause with
  | isNull =>
    have hstart : alphabet.Lexes "(attribute_not_exists("
        [.mark '(', .word "attribute_not_exists", .mark '('] := rfl
    have hor : alphabet.Lexes ") OR attribute_type("
        [.mark ')', .word "OR", .word "attribute_type", .mark '('] := rfl
    exact (lexes_arguments ((hstart.append_end hname rfl).append hor rfl)
      (Alphabet.endsLoose_append rfl) n hplaces).append hcloses rfl
  | isNotNull =>
    have hstart : alphabet.Lexes "(attribute_exists("
        [.mark '(', .word "attribute_exists", .mark '('] := rfl
    have hand : alphabet.Lexes ") AND NOT attribute_type("
        [.mark ')', .word "AND", .word "NOT", .word "attribute_type", .mark '('] := rfl
    exact (lexes_arguments ((hstart.append_end hname rfl).append hand rfl)
      (Alphabet.endsLoose_append rfl) n hplaces).append hcloses rfl
  | compare comparison operand =>
    have hblank : alphabet.Lexes " " [] := rfl
    have hsign : alphabet.Lexes comparison.text [.sign comparison.text] := by
      cases comparison with
      | range relation => cases relation <;> rfl
      | _ => rfl
    exact (((hname.append hblank rfl).append_end hsign (Alphabet.endsLoose_append rfl)).append
      hblank rfl).append_end hplaces (Alphabet.endsLoose_append rfl)
  | contains operand =>
    have hstart : alphabet.Lexes "contains(" [.word "contains", .mark '('] := rfl
    exact (lexes_arguments hstart rfl n hplaces).append hclose rfl
  | beginsWith operand =>
    have hstart : alphabet.Lexes "begins_with(" [.word "begins_with", .mark '('] := rfl
    exact (lexes_arguments hstart rfl n hplaces).append hclose rfl
  | isIn members =>
    exact ((hname.append hin rfl).append_end hplaces (Alphabet.endsLoose_append rfl)).append
      hclose rfl
  | notIn members =>
    have hstart : alphabet.Lexes "NOT (" [.word "NOT", .mark '('] := rfl
    exact (((hstart.append_end hname rfl).append hin rfl).append_end hplaces
      (Alphabet.endsLoose_append rfl)).append hcloses rfl

end QueryCriteria.Dynamo
