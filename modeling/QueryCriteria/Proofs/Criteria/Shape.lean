import QueryCriteria.Proofs.Criteria.Create
import QueryCriteria.Proofs.Criteria.Filter
import QueryCriteria.Proofs.Matching.Tree

/-!
The shape of filters. However a filter is obtained, its field has a trimmed name that is not empty and its
value is one that its operator takes; and every field, operator and value of this shape make a filter.
-/
namespace QueryCriteria

namespace Operator

/-- The values that an operator takes: a list of scalars, a text, a scalar, or a scalar or null. -/
def Takes : Operator → Value → Prop
  | .isIn, value | .notIn, value =>
    ∃ members, value = .list members ∧ ∀ m ∈ members, m.isNull = false ∧ m.isList = false
  | .contains, value | .beginsWith, value | .like, value | .notLike, value => ∃ s, value = .text s
  | .equal, value | .notEqual, value => value.isList = false
  | .greaterThan, value | .greaterEqual, value | .lessThan, value | .lessEqual, value =>
    value.isNull = false ∧ value.isList = false

end Operator

namespace Value

theorem exists_scalar {value : Value} (hnull : value.isNull = false) (hlist : value.isList = false) :
    ∃ s, value = .scalar s := by
  cases value with
  | null => cases hnull
  | scalar s => exact ⟨s, rfl⟩
  | list items => cases hlist

theorem exists_option {value : Value} (h : value.isList = false) :
    ∃ operand, value = .ofOption operand := by
  cases value with
  | null => exact ⟨none, rfl⟩
  | scalar s => exact ⟨some s, rfl⟩
  | list items => cases h

theorem exists_scalars {members : List Value}
    (h : ∀ m ∈ members, m.isNull = false ∧ m.isList = false) :
    ∃ scalars : List Scalar, members = scalars.map .scalar := by
  induction members with
  | nil => exact ⟨[], rfl⟩
  | cons m rest ih =>
    obtain ⟨⟨hnull, hlist⟩, hrest⟩ := List.forall_mem_cons.mp h
    obtain ⟨s, rfl⟩ := exists_scalar hnull hlist
    obtain ⟨scalars, rfl⟩ := ih hrest
    exact ⟨s :: scalars, rfl⟩

end Value

namespace Test

/-- The operator of a test takes its value. -/
theorem takes (test : Test) : test.operator.Takes test.value := by
  have hmembers (members : List Scalar) :
      ∀ m ∈ members.map Value.scalar, m.isNull = false ∧ m.isList = false := by
    intro m hm
    obtain ⟨s, _, rfl⟩ := List.mem_map.mp hm
    exact ⟨rfl, rfl⟩
  cases test with
  | equal operand | notEqual operand => cases operand <;> rfl
  | range relation s => cases relation <;> exact ⟨rfl, rfl⟩
  | text test s => cases test <;> exact ⟨s, rfl⟩
  | isIn members | notIn members => exact ⟨_, rfl, hmembers members⟩

/-- A value that an operator takes makes a test, which has the operator and the value. -/
theorem exists_of_takes {operator : Operator} {value : Value} (h : operator.Takes value) :
    ∃ test : Test, test.operator = operator ∧ test.value = value := by
  cases operator with
  | equal =>
    obtain ⟨operand, rfl⟩ := Value.exists_option h
    exact ⟨.equal operand, rfl, rfl⟩
  | notEqual =>
    obtain ⟨operand, rfl⟩ := Value.exists_option h
    exact ⟨.notEqual operand, rfl, rfl⟩
  | greaterThan =>
    obtain ⟨s, rfl⟩ := Value.exists_scalar h.1 h.2
    exact ⟨.range .greaterThan s, rfl, rfl⟩
  | greaterEqual =>
    obtain ⟨s, rfl⟩ := Value.exists_scalar h.1 h.2
    exact ⟨.range .greaterEqual s, rfl, rfl⟩
  | lessThan =>
    obtain ⟨s, rfl⟩ := Value.exists_scalar h.1 h.2
    exact ⟨.range .lessThan s, rfl, rfl⟩
  | lessEqual =>
    obtain ⟨s, rfl⟩ := Value.exists_scalar h.1 h.2
    exact ⟨.range .lessEqual s, rfl, rfl⟩
  | contains =>
    obtain ⟨s, rfl⟩ := h
    exact ⟨.text .contains s, rfl, rfl⟩
  | beginsWith =>
    obtain ⟨s, rfl⟩ := h
    exact ⟨.text .beginsWith s, rfl, rfl⟩
  | like =>
    obtain ⟨pattern, rfl⟩ := h
    exact ⟨.text .like pattern, rfl, rfl⟩
  | notLike =>
    obtain ⟨pattern, rfl⟩ := h
    exact ⟨.text .notLike pattern, rfl, rfl⟩
  | isIn =>
    obtain ⟨members, rfl, hmembers⟩ := h
    obtain ⟨scalars, rfl⟩ := Value.exists_scalars hmembers
    exact ⟨.isIn scalars, rfl, rfl⟩
  | notIn =>
    obtain ⟨members, rfl, hmembers⟩ := h
    obtain ⟨scalars, rfl⟩ := Value.exists_scalars hmembers
    exact ⟨.notIn scalars, rfl, rfl⟩

/-- A test with the operator of a comparison with a text is such a comparison. -/
theorem exists_text {test : Test} {comparison : TextTest} (h : test.operator = comparison.operator) :
    ∃ s, test = .text comparison s := by
  have htakes : comparison.operator.Takes test.value := h ▸ test.takes
  have hown : ofValue comparison.operator test.value = .ok test := h ▸ test.ofValue_value
  obtain ⟨s, hs⟩ : ∃ s, test.value = .text s := by cases comparison <;> exact htakes
  -- Operator and value make the test again, and with a text there is only one that they can make.
  rw [hs] at hown
  refine ⟨s, ?_⟩
  cases comparison <;> exact (Except.ok.inj hown).symm

end Test

namespace Filter

/-- The filters that callers get: made of checked parts, of texts or of an input, or renamed in a tree. -/
inductive Obtained : Filter → Prop where
  | new {field : FieldName} {operator : Operator} {value : Value} {f : Filter}
      (h : Filter.new field operator value = .ok f) : Obtained f
  | create {field operator : String} {value : Value} {f : Filter}
      (h : Filter.create field operator value = .ok f) : Obtained f
  | onField {field : String} {operator : Operator} {value : Value} {f : Filter}
      (h : Filter.onField field operator value = .ok f) : Obtained f
  | ofInput {input : FilterInput} {f : Filter} (h : Filter.ofInput input = .ok f) : Obtained f
  | renamed {c d : Criteria} {targets : Entries String} {f : Filter}
      (hc : ∀ g ∈ c.allFilters, Obtained g) (h : c.renameFilters targets = .ok d)
      (hf : f ∈ d.allFilters) : Obtained f

/-- What operators rely on. -/
structure Shape (field : String) (operator : Operator) (value : Value) : Prop where
  trimmed : Text.trim field = field
  nonempty : field ≠ ""
  takes : operator.Takes value

theorem shape (f : Filter) : Shape f.field.text f.operator f.value :=
  ⟨f.field.trimmed, f.field.nonempty, f.test.takes⟩

/-- What has the shape of a filter is one, and it is obtained from its parts. -/
theorem exists_new_of_shape {field : String} {operator : Operator} {value : Value}
    (h : Shape field operator value) :
    ∃ f, Filter.Obtained f ∧ f.field.text = field ∧ f.operator = operator ∧ f.value = value := by
  obtain ⟨test, rfl, rfl⟩ := Test.exists_of_takes h.takes
  let name : FieldName := ⟨field, h.trimmed, h.nonempty⟩
  have hnew : Filter.new name test.operator test.value = .ok ⟨name, test⟩ :=
    new_eq_ok_iff.mpr ⟨rfl, test.ofValue_value⟩
  exact ⟨⟨name, test⟩, .new hnew, rfl, rfl, rfl⟩

/-- The parts of the filters that callers get are exactly those with the shape of a filter. -/
theorem exists_obtained_iff {field : String} {operator : Operator} {value : Value} :
    (∃ f, Filter.Obtained f ∧ f.field.text = field ∧ f.operator = operator ∧ f.value = value) ↔
      Shape field operator value := by
  constructor
  · rintro ⟨f, _, rfl, rfl, rfl⟩
    exact f.shape
  · exact exists_new_of_shape

end Filter

end QueryCriteria
