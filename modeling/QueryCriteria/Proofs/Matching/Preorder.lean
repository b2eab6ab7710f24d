import QueryCriteria.Matching.Compare
import QueryCriteria.Proofs.Decimal.Rounding

/-!
Comparing records by sort fields. The comparison is reversed with its sides, and it is transitive
unless a field holds two signed integers and a third number that share one double: the integers are
told apart, and the third number equals both.
-/
namespace QueryCriteria

namespace Json

namespace Number

/-- The place of a number among the doubles. -/
def key (a : Number) : Int := a.toBinary64.orderKey

theorem int64?_eq_some_iff {a : Number} {m : Int64} :
    a.int64? = some m ↔ a = .integer (.ofInt64 m) := by
  cases a with
  | float x finite => simp [int64?]
  | integer n =>
    obtain ⟨n, hlower, hupper⟩ := n
    simp only [int64?, WideInt.toInt64?, integer.injEq, WideInt.ofInt64, WideInt.mk.injEq]
    constructor
    · intro h
      split at h
      · rename_i hn
        obtain rfl := Option.some.inj h
        exact (Int64.toInt_ofInt_of_le hlower hn).symm
      · cases h
    · rintro rfl
      rw [if_pos (Int64.toInt_lt m), Int64.ofInt_toInt]

theorem key_of_int64? {a : Number} {m : Int64} (h : a.int64? = some m) :
    a.key = (Binary64.ofInt m.toInt).orderKey := by
  rw [int64?_eq_some_iff.mp h]
  rfl

theorem key_le_of_int64? {a b : Number} {m n : Int64} (ha : a.int64? = some m)
    (hb : b.int64? = some n) (h : m.toInt ≤ n.toInt) : a.key ≤ b.key := by
  rw [key_of_int64? ha, key_of_int64? hb]
  exact Binary64.orderKey_ofInt_mono h

theorem isNaN_toBinary64 (a : Number) : a.toBinary64.isNaN = false := by
  cases a with
  | integer n => exact Binary64.isNaN_ofInt n.val
  | float x finite =>
    rw [Binary64.isFinite, decide_eq_true_eq] at finite
    exact decide_eq_false (by simp only [toBinary64]; omega)

/-- The order of two numbers, which always have one. -/
def order (a b : Number) : Ordering :=
  match a.int64?, b.int64? with
  | some m, some n => compare m.toInt n.toInt
  | _, _ => compare a.key b.key

theorem compare?_eq_order (a b : Number) : a.compare? b = some (a.order b) := by
  unfold compare? order Binary64.compare?
  rw [isNaN_toBinary64, isNaN_toBinary64]
  cases a.int64? <;> cases b.int64? <;> rfl

theorem order_swap (a b : Number) : b.order a = (a.order b).swap := by
  unfold order
  cases a.int64? <;> cases b.int64? <;> exact (Int.compare_swap _ _).symm

/-- Two signed integers that differ, and a number of another kind with the same double as both. -/
structure Blurs (x : Number) (m n : Int64) : Prop where
  differ : m ≠ n
  inexact : x.int64? = none
  left : (Binary64.ofInt m.toInt).sameValue x.toBinary64 = true
  right : (Binary64.ofInt n.toInt).sameValue x.toBinary64 = true

theorem sameValue_iff {a : Number} {m : Int64} :
    (Binary64.ofInt m.toInt).sameValue a.toBinary64 = true ↔
      (Binary64.ofInt m.toInt).orderKey = a.key := by
  unfold Binary64.sameValue Binary64.compare?
  rw [isNaN_toBinary64, Binary64.isNaN_ofInt]
  simp [key]

theorem isLE_order_of_none {a b : Number} (h : a.int64? = none ∨ b.int64? = none) :
    (a.order b).isLE ↔ a.key ≤ b.key := by
  unfold order
  split
  · rename_i ha hb
    rw [ha, hb] at h
    simp at h
  · exact Int.isLE_compare

theorem isLE_order_of_some {a b : Number} {m n : Int64} (ha : a.int64? = some m)
    (hb : b.int64? = some n) : (a.order b).isLE ↔ m.toInt ≤ n.toInt := by
  unfold order
  rw [ha, hb]
  exact Int.isLE_compare

/-- What is not above a number is not above it as a double either. -/
theorem key_le_of_isLE {a b : Number} (h : (a.order b).isLE) : a.key ≤ b.key := by
  cases ha : a.int64? with
  | none => exact (isLE_order_of_none (.inl ha)).mp h
  | some m =>
    cases hb : b.int64? with
    | none => exact (isLE_order_of_none (.inr hb)).mp h
    | some n => exact key_le_of_int64? ha hb ((isLE_order_of_some ha hb).mp h)

/-- The order of numbers is transitive where the middle one does not blur the outer ones. -/
theorem order_trans {a b c : Number}
    (hno : ∀ m n, a.int64? = some m → c.int64? = some n → ¬ b.Blurs m n)
    (hab : (a.order b).isLE) (hbc : (b.order c).isLE) : (a.order c).isLE := by
  have hkab := key_le_of_isLE hab
  have hkbc := key_le_of_isLE hbc
  cases ha : a.int64? with
  | none => exact (isLE_order_of_none (.inl ha)).mpr (Int.le_trans hkab hkbc)
  | some m =>
    cases hc : c.int64? with
    | none => exact (isLE_order_of_none (.inr hc)).mpr (Int.le_trans hkab hkbc)
    | some n =>
      rw [isLE_order_of_some ha hc]
      cases hb : b.int64? with
      | some k =>
        have hmk := (isLE_order_of_some ha hb).mp hab
        have hkn := (isLE_order_of_some hb hc).mp hbc
        exact Int.le_trans hmk hkn
      | none =>
        -- Were the outer integers the other way round, all three doubles would be one.
        refine Int.not_lt.mp fun hlt => ?_
        have hkca := key_le_of_int64? hc ha (by omega)
        refine hno m n ha hc ⟨?_, hb, ?_, ?_⟩
        · rintro rfl
          omega
        · rw [sameValue_iff, ← key_of_int64? ha]
          omega
        · rw [sameValue_iff, ← key_of_int64? hc]
          omega

end Number

theorem compareTexts_swap (s t : String) : compareTexts t s = (compareTexts s t).swap := by
  unfold compareTexts
  rcases Decidable.em (s = t) with rfl | hne
  · rw [if_neg (String.lt_irrefl s), if_pos rfl]
    rfl
  · by_cases hst : s < t
    · have hts : ¬ t < s := String.lt_asymm hst
      simp [hst, hts, Ne.symm hne]
    · have hts : t < s := Decidable.byContradiction fun h =>
        hne (String.le_antisymm (String.not_lt.mp h) (String.not_lt.mp hst))
      simp [hst, hts, hne]

theorem isLE_compareTexts {s t : String} : (compareTexts s t).isLE ↔ s ≤ t := by
  unfold compareTexts
  by_cases hst : s < t
  · simp [hst, String.not_lt.mp (String.lt_asymm hst)]
  · by_cases heq : s = t
    · subst heq
      rw [if_neg (String.lt_irrefl s), if_pos rfl]
      exact ⟨fun _ => String.le_refl s, fun _ => rfl⟩
    · simp only [hst, heq, if_false, Ordering.isLE_gt, Bool.false_eq_true, false_iff]
      intro hle
      exact heq (String.le_antisymm hle (String.not_lt.mp hst))

theorem sortOrder_number (a b : Number) : sortOrder (.number a) (.number b) = a.order b := by
  rw [sortOrder, compare?, Number.compare?_eq_order, Option.getD_some]

theorem sortOrder_of_rank_ne {a b : Json} (h : a.rank ≠ b.rank) :
    sortOrder a b = compare a.rank b.rank := by
  cases a <;> cases b <;> first | rfl | exact absurd rfl h

theorem sortOrder_swap (a b : Json) : sortOrder b a = (sortOrder a b).swap := by
  cases a <;> cases b <;> try rfl
  case bool.bool a b => cases a <;> cases b <;> rfl
  case number.number a b =>
    rw [sortOrder_number, sortOrder_number]
    exact Number.order_swap a b
  case text.text s t => exact compareTexts_swap s t

theorem rank_le_of_isLE {a b : Json} (h : (sortOrder a b).isLE) : a.rank ≤ b.rank := by
  by_cases hr : a.rank = b.rank
  · exact Nat.le_of_eq hr
  · rw [sortOrder_of_rank_ne hr] at h
    exact Nat.isLE_compare.mp h

/-- A value does not tell two others apart that differ as integers. -/
def Blurs (b a c : Json) : Prop :=
  ∃ (x : Number) (m n : Int64),
    b = .number x ∧ a = .ofInt64 m ∧ c = .ofInt64 n ∧ x.Blurs m n

/-- The order of values is transitive where the middle one does not blur the outer ones. -/
theorem sortOrder_trans {a b c : Json} (hno : ¬ b.Blurs a c) (hab : (sortOrder a b).isLE)
    (hbc : (sortOrder b c).isLE) : (sortOrder a c).isLE := by
  have hrab := rank_le_of_isLE hab
  have hrbc := rank_le_of_isLE hbc
  by_cases hr : a.rank = c.rank
  · have hb : a.rank = b.rank := by omega
    cases a <;> cases b <;> first | (cases hb; done) | skip
    all_goals cases c <;> first | (cases hr; done) | skip
    case null.null.null => exact hab
    case bool.bool.bool a b c =>
      have hle : a.toNat ≤ b.toNat := Nat.isLE_compare.mp hab
      have hle' : b.toNat ≤ c.toNat := Nat.isLE_compare.mp hbc
      exact Nat.isLE_compare.mpr (Nat.le_trans hle hle')
    case number.number.number a b c =>
      rw [sortOrder_number] at hab hbc ⊢
      refine Number.order_trans ?_ hab hbc
      intro m n ha hc hblurs
      rw [Number.int64?_eq_some_iff] at ha hc
      exact hno ⟨b, m, n, rfl, congrArg _ ha, congrArg _ hc, hblurs⟩
    case text.text.text s t u =>
      have hst := isLE_compareTexts.mp hab
      have htu := isLE_compareTexts.mp hbc
      exact isLE_compareTexts.mpr (String.le_trans hst htu)
    case array.array.array => exact hab
    case object.object.object => exact hab
  · rw [sortOrder_of_rank_ne hr]
    exact Nat.isLE_compare.mpr (by omega)

/-- Blurred integers are told apart, although the value in the middle equals both. -/
theorem Blurs.sortOrder_eq {a b c : Json} (h : b.Blurs a c) :
    sortOrder a b = .eq ∧ sortOrder b c = .eq ∧ sortOrder a c ≠ .eq := by
  obtain ⟨x, m, n, rfl, rfl, rfl, hblurs⟩ := h
  have hm : (Number.integer (.ofInt64 m)).int64? = some m := Number.int64?_eq_some_iff.mpr rfl
  have hn : (Number.integer (.ofInt64 n)).int64? = some n := Number.int64?_eq_some_iff.mpr rfl
  have hkm := (Number.key_of_int64? hm).trans (Number.sameValue_iff.mp hblurs.left)
  have hkn := (Number.key_of_int64? hn).trans (Number.sameValue_iff.mp hblurs.right)
  refine ⟨?_, ?_, ?_⟩
  · rw [ofInt64, sortOrder_number]
    simp [Number.order, hm, hblurs.inexact, hkm]
  · rw [ofInt64, sortOrder_number]
    simp [Number.order, hn, hblurs.inexact, hkn]
  · rw [ofInt64, ofInt64, sortOrder_number]
    simp only [Number.order, hm, hn, ne_eq, Int.compare_eq_eq]
    intro h
    exact hblurs.differ (Int64.toInt_inj.mp h)

end Json

namespace Record

theorem compareBy_swap (a b : Record) (fields : List FieldName) :
    compareBy b a fields = (compareBy a b fields).swap := by
  induction fields with
  | nil => rfl
  | cons field rest ih =>
    rw [compareBy, compareBy, ih, Json.sortOrder_swap, Ordering.swap_then]

theorem compareIn_swap (order : Order) (a b : Record) :
    compareIn order b a = (compareIn order a b).swap := by
  unfold compareIn
  cases order.type with
  | none => rfl
  | asc => exact compareBy_swap a b order.fields
  | desc => exact congrArg Ordering.swap (compareBy_swap a b order.fields)

/-- Among the records, a field holds two integers and a value that does not tell them apart. -/
def Blurred (field : FieldName) (records : List Record) : Prop :=
  ∃ a ∈ records, ∃ b ∈ records, ∃ c ∈ records,
    (b.resolve field.text).Blurs (a.resolve field.text) (c.resolve field.text)

section Listed

variable {records : List Record} {fields : List FieldName}

theorem transCmp_sortOrder {field : FieldName} (h : ¬ Blurred field records) :
    Std.TransCmp fun a b : { r // r ∈ records } =>
      Json.sortOrder (resolve a.val field.text) (resolve b.val field.text) where
  eq_swap := Json.sortOrder_swap _ _
  isLE_trans {a b c} hab hbc :=
    Json.sortOrder_trans (fun hb => h ⟨a, a.2, b, b.2, c, c.2, hb⟩) hab hbc

theorem transCmp_compareBy (h : ∀ field ∈ fields, ¬ Blurred field records) :
    Std.TransCmp fun a b : { r // r ∈ records } => compareBy a.val b.val fields := by
  induction fields with
  | nil => exact { eq_swap := rfl, isLE_trans := fun _ _ => rfl }
  | cons field rest ih =>
    obtain ⟨hfield, hrest⟩ := List.forall_mem_cons.mp h
    have first := transCmp_sortOrder hfield
    have others := ih hrest
    exact inferInstanceAs (Std.TransCmp (compareLex
      (fun a b : { r // r ∈ records } =>
        Json.sortOrder (resolve a.val field.text) (resolve b.val field.text))
      fun a b => compareBy a.val b.val rest))

theorem transitive_of_not_blurred {order : Order}
    (h : ∀ field ∈ order.fields, ¬ Blurred field records) : Transitive order records := by
  have hcmp := transCmp_compareBy h
  intro a ha b hb c hc
  unfold compareIn
  cases order.type with
  | none => exact fun _ _ => nofun
  | asc =>
    simp only [ne_eq, Ordering.ne_gt_iff_isLE]
    exact hcmp.isLE_trans (a := ⟨a, ha⟩) (b := ⟨b, hb⟩) (c := ⟨c, hc⟩)
  | desc =>
    simp only [ne_eq, Ordering.ne_gt_iff_isLE, Ordering.isLE_swap]
    exact hcmp.isGE_trans (a := ⟨a, ha⟩) (b := ⟨b, hb⟩) (c := ⟨c, hc⟩)

/-- Sorting by a field alone shows that it is blurred. -/
theorem not_transitive_of_blurred {field : FieldName} (h : Blurred field records) :
    ¬ Transitive ⟨[field], .asc⟩ records := by
  obtain ⟨a, ha, b, hb, c, hc, hblurs⟩ := h
  obtain ⟨hab, hbc, hac⟩ := hblurs.sortOrder_eq
  have hcompare (r s : Record) :
      compareIn ⟨[field], .asc⟩ r s =
        Json.sortOrder (resolve r field.text) (resolve s field.text) := Ordering.then_eq
  intro htrans
  have heqab := (hcompare a b).trans hab
  have heqbc := (hcompare b c).trans hbc
  have heqba : compareIn ⟨[field], .asc⟩ b a = .eq := by rw [compareIn_swap, heqab]; rfl
  have heqcb : compareIn ⟨[field], .asc⟩ c b = .eq := by rw [compareIn_swap, heqbc]; rfl
  have hle := htrans a ha b hb c hc (by simp [heqab]) (by simp [heqbc])
  have hge := htrans c hc b hb a ha (by simp [heqcb]) (by simp [heqba])
  rw [compareIn_swap] at hge
  rw [hcompare] at hle hge
  cases hcase : Json.sortOrder (resolve a field.text) (resolve c field.text) with
  | lt => exact hge (congrArg Ordering.swap hcase)
  | eq => exact hac hcase
  | gt => exact hle hcase

end Listed

/--
The comparison of records is reversed with its sides. It is transitive on a list of records, for every
order on some of the given fields, if and only if none of the fields is blurred among the records.
-/
theorem compareIn_preorder_iff (fields : List FieldName) (records : List Record) :
    (∀ (order : Order) (a b : Record), compareIn order b a = (compareIn order a b).swap) ∧
      ((∀ order : Order, order.fields ⊆ fields → Transitive order records) ↔
        ∀ field ∈ fields, ¬ Blurred field records) := by
  refine ⟨compareIn_swap, ?_, ?_⟩
  · intro htrans field hfield hblurred
    exact not_transitive_of_blurred hblurred (htrans ⟨[field], .asc⟩ (by simpa using hfield))
  · intro hnone order hsub
    exact transitive_of_not_blurred fun field hfield => hnone field (hsub hfield)

/-- The double 2 ^ 53 stands between two integers that it does not tell apart. -/
theorem compareIn_not_transitive :
    compareIn ⟨[⟨"n", rfl, by decide⟩], .asc⟩ [("n", .ofInt64 9007199254740993)]
        [("n", .number (.float ⟨0x4340000000000000⟩ rfl))] = .eq ∧
      compareIn ⟨[⟨"n", rfl, by decide⟩], .asc⟩ [("n", .number (.float ⟨0x4340000000000000⟩ rfl))]
        [("n", .ofInt64 9007199254740992)] = .eq ∧
      compareIn ⟨[⟨"n", rfl, by decide⟩], .asc⟩ [("n", .ofInt64 9007199254740993)]
        [("n", .ofInt64 9007199254740992)] = .gt :=
  ⟨rfl, rfl, rfl⟩

end Record

end QueryCriteria
