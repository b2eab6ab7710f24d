import QueryCriteria.Criteria.Error

/-! Names of attributes: never blank, and without blanks at their ends. -/
namespace QueryCriteria

/-- The name of an attribute that a filter or an order applies to. -/
structure FieldName where
  text : String
  trimmed : Text.trim text = text
  nonempty : text ≠ ""
deriving DecidableEq

namespace FieldName

@[ext] theorem ext {a b : FieldName} (h : a.text = b.text) : a = b := by
  cases a
  cases b
  simp_all

/-- The name that a text holds between its blanks. -/
def parse (s : String) : Except CriteriaError FieldName :=
  if h : Text.trim s ≠ "" then .ok ⟨Text.trim s, Text.trim_trim s, h⟩ else .error .emptyField

/-- Reading a name gives the name back. -/
theorem parse_text (field : FieldName) : parse field.text = .ok field := by
  have h := field.nonempty
  simp [parse, field.trimmed, h]

theorem parse_eq_ok_iff {s : String} {field : FieldName} :
    parse s = .ok field ↔ Text.trim s = field.text := by
  constructor
  · intro h
    unfold parse at h
    split at h
    · rw [← Except.ok.inj h]
    · cases h
  · intro h
    have hn := field.nonempty
    rw [parse, dif_pos (h ▸ hn)]
    exact congrArg Except.ok (FieldName.ext h)

end FieldName

end QueryCriteria
