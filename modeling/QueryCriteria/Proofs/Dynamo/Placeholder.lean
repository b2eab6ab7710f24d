import Mathlib.Data.List.TakeWhile
import QueryCriteria.Dynamo.Expression
import QueryCriteria.Proofs.Decimal.Digits
import QueryCriteria.Proofs.Entries

/-!
Placeholders of filter expressions. Each belongs to one condition, and a member to one place in its
list, so the maps of names and values give back what a condition was built from.
-/
namespace QueryCriteria.Dynamo

private theorem toList_toString_injective {m n : Nat} (h : (toString m).toList = (toString n).toList) :
    m = n := by
  rw [Decimal.toList_toString, Decimal.toList_toString] at h
  have hm := Decimal.natOfDigits?_toDigits m
  rw [h, Decimal.natOfDigits?_toDigits] at hm
  exact (Option.some.inj hm).symm

theorem namePlaceholder_injective {m n : Nat} (h : namePlaceholder m = namePlaceholder n) : m = n := by
  apply toList_toString_injective
  have hl := congrArg String.toList h
  simp only [namePlaceholder, String.toList_append] at hl
  exact List.append_cancel_left hl

/-- The digits behind the two characters that a placeholder for a value begins with. -/
private def digits (placeholder : String) : List Char :=
  (placeholder.toList.drop 2).takeWhile Char.isDigit

private theorem digits_valuePlaceholder (n : Nat) : digits (valuePlaceholder n) = (toString n).toList := by
  have hd : ∀ c ∈ Nat.toDigits 10 n, c.isDigit = true :=
    fun c hc => Nat.isDigit_of_mem_toDigits (by decide) (by decide) hc
  have hl : (valuePlaceholder n).toList = ':' :: 'v' :: (toString n).toList := by
    rw [valuePlaceholder, String.toList_append]
    rfl
  rw [digits, hl, Decimal.toList_toString]
  exact List.takeWhile_eq_self_iff.mpr hd

private theorem toList_memberPlaceholder (n i : Nat) :
    (memberPlaceholder n i).toList =
      ':' :: 'v' :: (toString n).toList ++ '_' :: (toString i).toList := by
  rw [memberPlaceholder, valuePlaceholder, String.toList_append, String.toList_append,
    String.toList_append, List.append_assoc]
  rfl

private theorem digits_memberPlaceholder (n i : Nat) :
    digits (memberPlaceholder n i) = (toString n).toList := by
  have hd : ∀ c ∈ Nat.toDigits 10 n, c.isDigit = true :=
    fun c hc => Nat.isDigit_of_mem_toDigits (by decide) (by decide) hc
  have hdrop : ((memberPlaceholder n i).toList.drop 2) =
      (toString n).toList ++ '_' :: (toString i).toList := by
    rw [toList_memberPlaceholder]
    rfl
  rw [digits, hdrop, Decimal.toList_toString, List.takeWhile_append_of_pos hd]
  simp

theorem memberPlaceholder_injective {n i j : Nat} (h : memberPlaceholder n i = memberPlaceholder n j) :
    i = j := by
  apply toList_toString_injective
  have hl := congrArg String.toList h
  rw [toList_memberPlaceholder, toList_memberPlaceholder] at hl
  exact (List.cons.inj (List.append_cancel_left hl)).2

/-- A placeholder of a condition shows the number of the condition. -/
private theorem digits_of_mem_values {n : Nat} {clause : Clause} {entry : String × Json}
    (h : entry ∈ clause.values n) : digits entry.1 = (toString n).toList := by
  cases clause with
  | isIn members | notIn members =>
    obtain ⟨member, _, rfl⟩ := List.mem_map.mp h
    exact digits_memberPlaceholder n member.2
  | _ =>
    obtain rfl := List.mem_singleton.mp h
    exact digits_valuePlaceholder n

/-- A placeholder stands for one value within its condition. -/
private theorem value_unique {n : Nat} {clause : Clause} {a b : String × Json}
    (ha : a ∈ clause.values n) (hb : b ∈ clause.values n) (h : a.1 = b.1) : a.2 = b.2 := by
  cases clause with
  | isIn members | notIn members =>
    obtain ⟨⟨v, i⟩, hv, rfl⟩ := List.mem_map.mp ha
    obtain ⟨⟨w, j⟩, hw, rfl⟩ := List.mem_map.mp hb
    obtain rfl := memberPlaceholder_injective h
    rw [List.mem_zipIdx_iff_getElem?] at hv hw
    exact Option.some.inj (hv.symm.trans hw)
  | _ => rw [List.mem_singleton.mp ha, List.mem_singleton.mp hb]

namespace Expression

variable {e : Expression} {n : Nat} {condition : Condition}

/-- The map of names holds the attribute of each condition under the placeholder with its number. -/
theorem mem_names_iff {entry : String × String} :
    entry ∈ e.names ↔
      ∃ (n : Nat) (condition : Condition), e.conditions[n]? = some condition ∧
        entry = (namePlaceholder n, condition.field) := by
  have hentries (entry : String × String) :
      entry ∈ e.conditions.zipIdx.map (fun numbered => (namePlaceholder numbered.2, numbered.1.field)) ↔
        ∃ (n : Nat) (condition : Condition), e.conditions[n]? = some condition ∧
          entry = (namePlaceholder n, condition.field) := by
    simp only [List.mem_map, Prod.exists, List.mem_zipIdx_iff_getElem?]
    constructor
    · rintro ⟨condition, n, h, rfl⟩
      exact ⟨n, condition, h, rfl⟩
    · rintro ⟨n, condition, h, rfl⟩
      exact ⟨condition, n, h, rfl⟩
  rw [← hentries, names]
  refine Entries.mem_ofList_iff ?_
  intro a ha b hb hk
  obtain ⟨m, x, hx, rfl⟩ := (hentries a).mp ha
  obtain ⟨n, y, hy, rfl⟩ := (hentries b).mp hb
  obtain rfl := namePlaceholder_injective hk
  rw [Option.some.inj (hx.symm.trans hy)]

/-- The map of values holds the values of each condition under their placeholders. -/
theorem mem_values_iff {entry : String × Json} :
    entry ∈ e.values ↔
      ∃ (n : Nat) (condition : Condition), e.conditions[n]? = some condition ∧
        entry ∈ condition.clause.values n := by
  have hentries (entry : String × Json) :
      entry ∈ e.conditions.zipIdx.flatMap (fun numbered => numbered.1.clause.values numbered.2) ↔
        ∃ (n : Nat) (condition : Condition), e.conditions[n]? = some condition ∧
          entry ∈ condition.clause.values n := by
    simp only [List.mem_flatMap, Prod.exists, List.mem_zipIdx_iff_getElem?]
    exact exists_comm
  rw [← hentries, values]
  refine Entries.mem_ofList_iff ?_
  intro a ha b hb hk
  obtain ⟨m, x, hx, ha⟩ := (hentries a).mp ha
  obtain ⟨n, y, hy, hb⟩ := (hentries b).mp hb
  have hdigits := digits_of_mem_values ha
  rw [hk, digits_of_mem_values hb] at hdigits
  obtain rfl := toList_toString_injective hdigits.symm
  obtain rfl := Option.some.inj (hx.symm.trans hy)
  exact value_unique ha hb hk

/-- The attribute of a condition is found under its placeholder. -/
theorem get?_names (h : e.conditions[n]? = some condition) :
    Entries.get? e.names (namePlaceholder n) = some condition.field :=
  (Entries.get?_eq_some_iff (Entries.ascending_ofList _)).mpr (mem_names_iff.mpr ⟨n, condition, h, rfl⟩)

/-- The values of a condition are found under their placeholders. -/
theorem get?_values (h : e.conditions[n]? = some condition) {entry : String × Json}
    (he : entry ∈ condition.clause.values n) : Entries.get? e.values entry.1 = some entry.2 :=
  (Entries.get?_eq_some_iff (Entries.ascending_ofList _)).mpr (mem_values_iff.mpr ⟨n, condition, h, he⟩)

end Expression

end QueryCriteria.Dynamo
