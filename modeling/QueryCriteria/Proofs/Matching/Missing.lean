import QueryCriteria.Proofs.Matching.Tree

/-!
Missing values and the operators. A missing value satisfies the negations and nothing else, as long as
no operand becomes null itself, which is what floats do that are not finite. A missing value equals
such an operand, and only the strict comparisons do not notice.
-/
namespace QueryCriteria

/-- Whether the operator holds of whatever does not satisfy another one. -/
def Operator.isNegation : Operator → Bool
  | .notEqual | .notLike | .notIn => true
  | _ => false

/-- Whether the operator is a range comparison that does not hold of equal values. -/
def Operator.isStrict : Operator → Bool
  | .greaterThan | .lessThan => true
  | _ => false

/-- Null compares with what is null itself, so with the floats that have no JSON form. -/
theorem Scalar.compare?_null (s : Scalar) :
    Json.null.compare? s.toJson = if s.isFinite then none else some .eq := by
  by_cases h : s.isFinite = true
  · rw [if_pos h]
    have hs := toJson_ne_null h
    cases hj : s.toJson with
    | null => exact absurd hj hs
    | _ => rfl
  · rw [if_neg h]
    cases s with
    | float x =>
      have hnull : (Scalar.float x).toJson = .null := dif_neg h
      rw [hnull]
      rfl
    | _ => exact absurd rfl h

namespace Test

theorem equals_null_toJson (s : Scalar) : equals .null s.toJson = !s.isFinite := by
  rw [equals, Scalar.compare?_null]
  cases s.isFinite <;> rfl

theorem any_equals_null (members : List Scalar) :
    (members.any fun s => equals .null s.toJson) = !members.all Scalar.isFinite := by
  simp only [equals_null_toJson, List.not_all_eq_any_not]

theorem isFinite_iff_all {test : Test} : test.IsFinite ↔ test.operands.all Scalar.isFinite = true :=
  List.all_eq_true.symm

/-- A missing value satisfies the test just if the operator is a negation, unless an operand is null. -/
theorem holds_null_iff {test : Test} (hvalue : test.value ≠ .null) :
    test.holds .null = test.operator.isNegation ↔ test.IsFinite ∨ test.operator.isStrict = true := by
  rw [isFinite_iff_all]
  cases test with
  | equal operand =>
    cases operand with
    | none => exact absurd rfl hvalue
    | some s =>
      simp [holds, Json.ofOption, equals_null_toJson, operands, operator, Operator.isNegation,
        Operator.isStrict]
  | notEqual operand =>
    cases operand with
    | none => exact absurd rfl hvalue
    | some s =>
      simp [holds, Json.ofOption, equals_null_toJson, operands, operator, Operator.isNegation,
        Operator.isStrict]
  | range relation s =>
    rw [holds, Scalar.compare?_null]
    cases hs : s.isFinite <;> cases relation <;> simp [hs, operands, Relation.accepts, operator,
      Relation.operator, Operator.isNegation, Operator.isStrict]
  | text test s =>
    refine iff_of_true ?_ (.inl rfl)
    cases test <;> rfl
  | isIn members =>
    rw [holds, any_equals_null]
    simp [operands, operator, Operator.isNegation, Operator.isStrict]
  | notIn members =>
    rw [holds, any_equals_null]
    simp [operands, operator, Operator.isNegation, Operator.isStrict]

end Test

/--
A record that lacks the field of a filter, or holds null there, satisfies the filter just if its operator
is a negation, for a filter that does not compare with null. The exceptions are the filters with an
operand that is a float but not finite, and an operator other than a strict comparison.
-/
theorem Filter.missing_satisfies_negations_iff {filter : Filter} {record : Record}
    (hvalue : filter.value ≠ .null) (hmissing : record.resolve filter.field.text = .null) :
    filter.holds record = filter.operator.isNegation ↔
      filter.test.IsFinite ∨ filter.operator.isStrict = true := by
  rw [Filter.holds, hmissing]
  exact Test.holds_null_iff hvalue

/-- Without a score, a record is not among those with a listed one, whatever it is named. -/
theorem Filter.missing_satisfies_negations_iff_unscored :
    (Filter.mk ⟨"score", rfl, by decide⟩ (.notIn [.integer 7, .text "high"])).holds
      [("name", .text "Ada")] = true := by
  refine (Filter.missing_satisfies_negations_iff ?_ rfl).mpr (.inl ?_)
  · intro h
    cases h
  · unfold Test.IsFinite
    decide

/-- NaN and the infinities have no JSON form, so a record without a score compares as equal to them. -/
theorem Filter.missing_equals_nan :
    (Filter.onField "score" .equal (.float .nan)).map (Filter.holds · []) = .ok true ∧
      (Filter.onField "score" .notEqual (.float .nan)).map (Filter.holds · []) = .ok false ∧
      (Filter.onField "score" .greaterEqual (.float (.infinity false))).map (Filter.holds · []) =
        .ok true ∧
      (Filter.onField "score" .notIn (.list [.integer 7, .float .nan])).map (Filter.holds · []) =
        .ok false :=
  ⟨rfl, rfl, rfl, rfl⟩

end QueryCriteria
