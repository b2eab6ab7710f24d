import QueryCriteria.Proofs.Criteria.Filter
import QueryCriteria.Proofs.Decimal.Rounding
import QueryCriteria.Proofs.Matching.Tree

/-!
Operands and JSON. What is read from JSON holds finite numbers only, and so does a test that it makes;
the value of such a test is read again from its JSON form, and it equals itself.
-/
namespace QueryCriteria

namespace Scalar

/-- JSON numbers are finite, also when they stand for integers beyond the signed range. -/
theorem isFinite_ofNumber (n : Json.Number) : (Value.ofNumber n).isFinite = true := by
  cases n with
  | float x finite => exact finite
  | integer n =>
    obtain ⟨n, hlower, hupper⟩ := n
    rw [Value.ofNumber]
    split
    · rfl
    · have hn : n.natAbs < 2 ^ 64 := by omega
      exact Binary64.isFinite_ofInt hn

theorem ofJson_toJson {s : Scalar} (h : s.isFinite = true) :
    Value.ofJson s.toJson = .ok (.scalar s) ∧ Value.ofJsonMember s.toJson = .ok (.scalar s) := by
  cases s with
  | bool b => exact ⟨rfl, rfl⟩
  | text s => exact ⟨rfl, rfl⟩
  | integer n =>
    have hn : Value.ofNumber (.integer (.ofInt64 n)) = .integer n := by
      rw [Value.ofNumber, WideInt.toInt64?_ofInt64]
    exact ⟨congrArg (Except.ok ∘ Value.scalar) hn, congrArg (Except.ok ∘ Value.scalar) hn⟩
  | float x =>
    have hx : x.isFinite = true := h
    rw [toJson, Json.ofBinary64, dif_pos hx]
    exact ⟨rfl, rfl⟩

/-- Every value but NaN equals itself. -/
theorem sameValue_self {s : Scalar} (h : s.isFinite = true) : s.sameValue s = true := by
  cases s with
  | bool b => exact beq_self_eq_true b
  | integer n => exact beq_self_eq_true n
  | text t => exact beq_self_eq_true t
  | float x =>
    have hx : x.magnitude < Binary64.infinityMagnitude := of_decide_eq_true h
    have hnumber : x.isNaN = false := decide_eq_false (Nat.not_lt_of_lt hx)
    change (x.compare? x == some .eq) = true
    rw [Binary64.compare?, hnumber]
    simp

end Scalar

namespace Value

/-- The scalar, if the value is one. -/
def scalar? : Value → Option Scalar
  | .scalar s => some s
  | _ => none

/-- The scalars that a value holds, itself or as the members of a list. -/
def operands : Value → List Scalar
  | .list items => items.filterMap scalar?
  | value => value.scalar?.toList

theorem mem_operands_of_scalar? {value : Value} {s : Scalar} (h : value.scalar? = some s) :
    s ∈ value.operands := by
  cases value with
  | scalar t => exact List.mem_singleton.mpr (Option.some.inj h).symm
  | null => cases h
  | list items => cases h

theorem isFinite_of_ofJsonMember {json : Json} {value : Value} (h : ofJsonMember json = .ok value) :
    ∀ s ∈ value.operands, s.isFinite = true := by
  have hscalar {t : Scalar} (ht : t.isFinite = true) (hv : Value.scalar t = value) :
      ∀ s ∈ value.operands, s.isFinite = true := by
    subst hv
    exact fun s hs => List.mem_singleton.mp hs ▸ ht
  cases json with
  | null =>
    obtain rfl := Except.ok.inj h
    exact fun s hs => absurd hs List.not_mem_nil
  | bool b => exact hscalar rfl (Except.ok.inj h)
  | number n => exact hscalar (Scalar.isFinite_ofNumber n) (Except.ok.inj h)
  | text t => exact hscalar rfl (Except.ok.inj h)
  | array items => cases h
  | object fields => cases h

theorem isFinite_of_ofJson {json : Json} {value : Value} (h : ofJson json = .ok value) :
    ∀ s ∈ value.operands, s.isFinite = true := by
  unfold ofJson at h
  split at h
  · obtain ⟨members, hread, hvalue⟩ := exists_of_map_ok h
    subst hvalue
    have hmembers := forall_of_mapM_ok hread fun _ _ _ => isFinite_of_ofJsonMember
    intro s hs
    obtain ⟨member, hmem, hscalar⟩ := List.mem_filterMap.mp hs
    exact hmembers member hmem s (mem_operands_of_scalar? hscalar)
  · exact isFinite_of_ofJsonMember h

theorem toJsonAll_eq_map (items : List Value) : toJsonAll items = items.map toJson := by
  induction items with
  | nil => rfl
  | cons item rest ih => rw [toJsonAll, ih, List.map_cons]

end Value

namespace Test

/-- A test compares with the scalars that its value holds. -/
theorem operands_of_ofValue {operator : Operator} {value : Value} {test : Test}
    (h : ofValue operator value = .ok test) : test.operands = value.operands := by
  cases operator with
  | equal | notEqual =>
    cases value with
    | list items => cases h
    | _ =>
      obtain rfl := Except.ok.inj h
      rfl
  | greaterThan | greaterEqual | lessThan | lessEqual =>
    cases value with
    | scalar s =>
      obtain rfl := Except.ok.inj h
      rfl
    | _ => cases h
  | contains | beginsWith | like | notLike =>
    cases value with
    | scalar s =>
      cases s with
      | text t =>
        obtain rfl := Except.ok.inj h
        rfl
      | _ => cases h
    | _ => cases h
  | isIn | notIn =>
    cases value with
    | null => cases h
    | scalar s =>
      obtain rfl := Except.ok.inj h
      rfl
    | list items =>
      change (if items.any Value.isList then _ else Except.map _ (items.mapM _)) = _ at h
      split at h
      · cases h
      · obtain ⟨members, hread, hmembers⟩ := exists_of_map_ok h
        subst hmembers
        refine eq_filterMap_of_mapM_ok hread fun member s hs => ?_
        cases member with
        | scalar t => exact congrArg some (Except.ok.inj hs)
        | _ => cases hs

theorem isFinite_of_ofValue {json : Json} {value : Value} (hvalue : Value.ofJson json = .ok value)
    {operator : Operator} {test : Test} (h : ofValue operator value = .ok test) : test.IsFinite := by
  rw [IsFinite, operands_of_ofValue h]
  exact Value.isFinite_of_ofJson hvalue

/-- The value of a test is read again from its written form. -/
theorem ofJson_value {test : Test} (h : test.IsFinite) : Value.ofJson test.value.toJson = .ok test.value := by
  have hlist {members : List Scalar} (h : ∀ s ∈ members, s.isFinite = true) :
      Value.ofJson (Value.list (members.map .scalar)).toJson = .ok (.list (members.map .scalar)) := by
    rw [Value.toJson, Value.toJsonAll_eq_map]
    refine congrArg (Except.map Value.list) (mapM_map_eq_ok ?_)
    intro value hvalue
    obtain ⟨s, hs, rfl⟩ := List.mem_map.mp hvalue
    exact (Scalar.ofJson_toJson (h s hs)).2
  cases test with
  | equal operand | notEqual operand =>
    cases operand with
    | none => rfl
    | some s => exact (Scalar.ofJson_toJson (h s List.mem_cons_self)).1
  | range relation s => exact (Scalar.ofJson_toJson (h s List.mem_cons_self)).1
  | text test t => rfl
  | isIn members | notIn members => exact hlist h

theorem sameValue_self {test : Test} (h : test.IsFinite) : test.value.sameValue test.value = true := by
  have hlist {members : List Scalar} (h : ∀ s ∈ members, s.isFinite = true) :
      Value.sameValues (members.map .scalar) (members.map .scalar) = true := by
    induction members with
    | nil => rfl
    | cons s rest ih =>
      obtain ⟨hs, hrest⟩ := List.forall_mem_cons.mp h
      rw [List.map_cons, Value.sameValues, Value.sameValue, Scalar.sameValue_self hs, ih hrest]
      rfl
  cases test with
  | equal operand | notEqual operand =>
    cases operand with
    | none => rfl
    | some s => exact Scalar.sameValue_self (h s List.mem_cons_self)
  | range relation s => exact Scalar.sameValue_self (h s List.mem_cons_self)
  | text test t => exact beq_self_eq_true t
  | isIn members | notIn members => exact hlist h

end Test

end QueryCriteria
