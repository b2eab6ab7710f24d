import QueryCriteria.Criteria.Filter
import QueryCriteria.Proofs.Success

/-! A test and its parts: the operator and the operand determine it. -/
namespace QueryCriteria

private theorem any_isList_scalars (members : List Scalar) :
    (members.map Value.scalar).any Value.isList = false := by
  rw [List.any_map, List.any_eq_false]
  exact fun s _ => Bool.false_ne_true

namespace Test

/-- A test is what its operator makes of its operand. -/
theorem ofValue_value (test : Test) : ofValue test.operator test.value = .ok test := by
  cases test with
  | equal operand => cases operand <;> rfl
  | notEqual operand => cases operand <;> rfl
  | range relation operand => cases relation <;> rfl
  | text test operand => cases test <;> rfl
  | isIn members | notIn members =>
    change (if (members.map Value.scalar).any Value.isList then _ else
      Except.map _ ((members.map Value.scalar).mapM _)) = _
    rw [any_isList_scalars, if_neg Bool.false_ne_true]
    refine congrArg (Except.map _) (?_ : _ = Except.ok members)
    exact mapM_map_eq_ok fun _ _ => rfl

theorem eq_of_operator_value {a b : Test} (hop : a.operator = b.operator) (hvalue : a.value = b.value) :
    a = b := by
  have ha := a.ofValue_value
  rw [hop, hvalue, b.ofValue_value] at ha
  exact (Except.ok.inj ha).symm

end Test

namespace Value

theorem eq_text_of_text? {value : Value} {s : String} (h : value.text? = some s) : value = .text s := by
  cases value with
  | scalar scalar => cases scalar <;> cases h; rfl
  | null => cases h
  | list items => cases h

theorem eq_text_of_sameValue {value : Value} {s : String} (h : value.sameValue (.text s) = true) :
    value = .text s := by
  cases value with
  | scalar scalar =>
    cases scalar with
    | text t => rw [show t = s from beq_iff_eq.mp h, text]
    | bool b => cases h
    | integer n => cases h
    | float x => cases h
  | null => cases h
  | list items => cases h

end Value

/-- A filter with the meaning of one that compares with a text is that filter. -/
theorem Filter.eq_of_same {a b : Filter} (htext : b.value.text?.isSome = true)
    (h : a.same b = true) : a = b := by
  obtain ⟨s, hs⟩ := Option.isSome_iff_exists.mp htext
  simp only [same, Bool.and_eq_true, beq_iff_eq] at h
  obtain ⟨⟨hfield, hop⟩, hsame⟩ := h
  rw [Value.eq_text_of_text? hs] at hsame
  have hvalue : a.value = b.value :=
    (Value.eq_text_of_sameValue hsame).trans (Value.eq_text_of_text? hs).symm
  have htest : a.test = b.test := Test.eq_of_operator_value hop hvalue
  obtain ⟨field, test⟩ := a
  obtain ⟨field', test'⟩ := b
  rw [show field = field' from hfield, show test = test' from htest]

end QueryCriteria
