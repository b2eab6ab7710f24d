import QueryCriteria.Dynamo.Attribute
import QueryCriteria.Proofs.Decimal.Numeral
import QueryCriteria.Proofs.Json.Numbers
import QueryCriteria.Proofs.Success

/-!
Records that are stored as items and read back. A record always comes back, and unchanged except for
integers beyond the signed 64-bit range: these are read as the doubles nearest to them.
-/
namespace QueryCriteria.Dynamo

theorem isFinite_ofWideInt (n : WideInt) : (Binary64.ofInt n.val).isFinite = true := by
  have hlower := n.lower
  have hupper := n.upper
  exact Binary64.isFinite_ofInt (by omega)

/-- The number that a stored number is read as. -/
def restored : Json.Number → Json.Number
  | .integer n =>
    if n.val < 2 ^ 63 then .integer n else .float (.ofInt n.val) (isFinite_ofWideInt n)
  | .float x finite => .float x finite

/-- The text of a float, as JSON shows it, is read as the same float. -/
def ReadsBack (x : Binary64) : Prop :=
  Decimal.readFloat? (Json.floatLayout.render x).toList = some x

/-- Only integers that fit 64 bits with a sign are read as they were. -/
theorem restored_eq_self_iff {n : Json.Number} :
    restored n = n ↔ ∀ m, n = .integer m → m.val < 2 ^ 63 := by
  cases n with
  | float x finite =>
    constructor
    · intro _ m h
      cases h
    · intro _
      rfl
  | integer m =>
    rw [restored]
    constructor
    · intro hsame k hk
      cases hk
      split at hsame
      · assumption
      · cases hsame
    · intro hall
      rw [if_pos (hall m rfl)]

section Reading

variable {digits : String}

theorem readNumber_of_integer {n : Int} (h : Decimal.readInteger? digits.toList = some n)
    (hlower : -2 ^ 63 ≤ n) (hupper : n < 2 ^ 63) :
    readNumber digits = .ok (.ofInt64 (Int64.ofInt n)) := by
  have hfits : decide (-2 ^ 63 ≤ n ∧ n < 2 ^ 63) = true := decide_eq_true ⟨hlower, hupper⟩
  unfold readNumber
  simp only [h, Option.filter_some, hfits, if_true]

theorem readNumber_of_float {x : Binary64} (finite : x.isFinite = true)
    (h : ∀ n, Decimal.readInteger? digits.toList = some n → ¬ (-2 ^ 63 ≤ n ∧ n < 2 ^ 63))
    (hx : Decimal.readFloat? digits.toList = some x) :
    readNumber digits = .ok (.number (.float x finite)) := by
  have hnone : (Decimal.readInteger? digits.toList).filter (fun n => -2 ^ 63 ≤ n ∧ n < 2 ^ 63) = none := by
    rw [Option.filter_eq_none_iff]
    intro n hn
    simpa using h n hn
  unfold readNumber
  simp only [hnone, hx, finite, if_true, Json.ofBinary64]
  rfl

end Reading

theorem ofInt64_ofInt {n : WideInt} (h : n.val < 2 ^ 63) :
    Json.ofInt64 (Int64.ofInt n.val) = .number (.integer n) := by
  obtain ⟨n, hlower, hupper⟩ := n
  simp only [Json.ofInt64, WideInt.ofInt64, Json.number.injEq, Json.Number.integer.injEq,
    WideInt.mk.injEq]
  exact Int64.toInt_ofInt_of_le hlower h

/-- An integer beyond the signed range is read as the double nearest to it. -/
theorem readFloat?_toString {n : WideInt} (h : ¬ n.val < 2 ^ 63) :
    Decimal.readFloat? (toString n.val).toList = some (.ofInt n.val) := by
  obtain ⟨n, hlower, hupper⟩ := n
  dsimp only at h ⊢
  obtain ⟨m, rfl⟩ := Int.eq_ofNat_of_zero_le (show 0 ≤ n by omega)
  have htext : (toString (m : Int)).toList = Nat.toDigits 10 m := Decimal.toList_toString m
  have hm : m < 10 ^ 20 := by
    have hsmall : (2 : Nat) ^ 64 ≤ 10 ^ 20 := by decide
    omega
  have hcount : Binary64.digitCount m ≤ 20 :=
    (Nat.length_toDigits_le_iff (by decide) (by decide)).mpr hm
  rw [htext]
  exact Decimal.readFloat?_toDigits (by omega)

theorem readNumber_render (n : Json.Number) (h : ∀ x finite, n = .float x finite → ReadsBack x) :
    readNumber n.render = .ok (.number (restored n)) := by
  cases n with
  | float x finite =>
    have hnone : Decimal.readInteger? (Json.floatLayout.render x).toList = none :=
      Decimal.readInteger?_render rfl x
    exact readNumber_of_float finite (fun n hn => by cases hnone.symm.trans hn) (h x finite rfl)
  | integer n =>
    have hread : Decimal.readInteger? (toString n.val).toList = some n.val :=
      Decimal.readInteger?_toString n.val
    rw [restored]
    split
    · rename_i hsmall
      rw [← ofInt64_ofInt hsmall]
      exact readNumber_of_integer hread n.lower hsmall
    · rename_i hlarge
      refine readNumber_of_float _ ?_ (readFloat?_toString hlarge)
      intro m hm hfits
      have heq := hread.symm.trans hm
      cases heq
      exact hlarge hfits.2

theorem ofItems_eq_map (items : List Json) :
    Attribute.ofItems items = items.map Attribute.ofJson := by
  induction items with
  | nil => rfl
  | cons item rest ih => rw [Attribute.ofItems, ih, List.map_cons]

theorem ofRecord_eq_map (record : Record) :
    Item.ofRecord record = record.map fun e => (e.1, Attribute.ofJson e.2) := by
  induction record with
  | nil => rfl
  | cons e rest ih => rw [Item.ofRecord, ih, List.map_cons]

theorem toItems_eq_mapM (items : List Attribute) :
    Attribute.toItems items = items.mapM Attribute.toJson := by
  induction items with
  | nil => rfl
  | cons item rest ih => rw [Attribute.toItems, ih, List.mapM_cons]

theorem toRecord_eq_mapM (item : Item) :
    Item.toRecord item = item.mapM fun e => e.2.toJson.map fun value => (e.1, value) := by
  induction item with
  | nil => rfl
  | cons e rest ih =>
    rw [Item.toRecord, ih, List.mapM_cons]
    cases e.2.toJson <;> rfl

/-- A stored record is read field by field. -/
theorem toRecord_ofRecord {record : Record}
    (h : ∀ e ∈ record, (Attribute.ofJson e.2).toJson = .ok (e.2.mapNumbers restored)) :
    Item.toRecord (Item.ofRecord record) = .ok (Json.mapNumbersOfFields restored record) := by
  rw [toRecord_eq_mapM, ofRecord_eq_map, List.mapM_map, Json.mapNumbersOfFields_eq_map]
  refine mapM_eq_ok_map fun e he => ?_
  rw [Function.comp_apply, h e he]
  rfl

/-- A stored value is read with its numbers as stored numbers are read, and otherwise unchanged. -/
theorem toJson_ofJson {v : Json} (h : ∀ x finite, .float x finite ∈ v.numbers → ReadsBack x) :
    (Attribute.ofJson v).toJson = .ok (v.mapNumbers restored) := by
  induction v using Json.induction with
  | null => rfl
  | bool b => rfl
  | number n =>
    refine readNumber_render n fun x finite hn => h x finite ?_
    rw [hn]
    exact List.mem_singleton_self _
  | text s => rfl
  | array items ih =>
    rw [Json.numbers, Json.numbersOfItems_eq_flatMap] at h
    have hitems : (items.map Attribute.ofJson).mapM Attribute.toJson =
        .ok (items.map (Json.mapNumbers restored)) := by
      rw [List.mapM_map]
      refine mapM_eq_ok_map fun v hv => ih v hv fun x finite hx => h x finite ?_
      exact List.mem_flatMap.mpr ⟨v, hv, hx⟩
    rw [Attribute.ofJson, Attribute.toJson, ofItems_eq_map, toItems_eq_mapM, hitems, Json.mapNumbers,
      Json.mapNumbersOfItems_eq_map]
    rfl
  | object fields ih =>
    rw [Json.numbers, Json.numbersOfFields_eq_flatMap] at h
    have hfields : Item.toRecord (Item.ofRecord fields) =
        .ok (Json.mapNumbersOfFields restored fields) := by
      refine toRecord_ofRecord fun e he => ih e he fun x finite hx => h x finite ?_
      exact List.mem_flatMap.mpr ⟨e, he, hx⟩
    rw [Attribute.ofJson, Attribute.toJson, hfields, Json.mapNumbers]
    rfl

/--
A stored record is read without an error. It is the record that was stored if and only if no number in
it, at any depth, is an integer beyond the signed 64-bit range; such an integer is read as the double
nearest to it, and all else as it was. Relied on: the texts of the floats in the record are read as the
same floats.
-/
theorem toRecord_ofRecord_iff (record : Record)
    (h : ∀ x finite, .float x finite ∈ (Json.object record).numbers → ReadsBack x) :
    Item.toRecord (Item.ofRecord record) = .ok (Json.mapNumbersOfFields restored record) ∧
      (Item.toRecord (Item.ofRecord record) = .ok record ↔
        ∀ n, .integer n ∈ (Json.object record).numbers → n.val < 2 ^ 63) := by
  have hread : Item.toRecord (Item.ofRecord record) = .ok (Json.mapNumbersOfFields restored record) := by
    refine toRecord_ofRecord fun e he => toJson_ofJson fun x finite hx => h x finite ?_
    rw [Json.numbers, Json.numbersOfFields_eq_flatMap]
    exact List.mem_flatMap.mpr ⟨e, he, hx⟩
  have hsame : Json.mapNumbersOfFields restored record = record ↔
      ∀ n ∈ (Json.object record).numbers, restored n = n := by
    rw [← Json.mapNumbers_eq_self_iff, Json.mapNumbers, Json.object.injEq]
  refine ⟨hread, ?_⟩
  rw [hread, Except.ok.injEq, hsame]
  constructor
  · intro hall n hn
    exact restored_eq_self_iff.mp (hall _ hn) n rfl
  · intro hall n hn
    refine restored_eq_self_iff.mpr fun m hm => hall m ?_
    rwa [← hm]

/-- A record with one and a half, the least signed and the greatest unsigned integer. -/
def visit : Record :=
  [("id", .text "u1"),
    ("place", .object [("city", .text "Berlin"),
      ("rooms", .array [.number (.integer ⟨-9223372036854775808, by decide, by decide⟩)])]),
    ("score", .number (.float ⟨0x3FF8000000000000⟩ rfl)),
    ("serial", .number (.integer ⟨18446744073709551615, by decide, by decide⟩))]

theorem visit_reads : ∀ x finite, .float x finite ∈ (Json.object visit).numbers → ReadsBack x := by
  intro x finite hx
  have hmem : Json.Number.float x finite ∈
      [.integer ⟨-9223372036854775808, by decide, by decide⟩, .float ⟨0x3FF8000000000000⟩ rfl,
        .integer ⟨18446744073709551615, by decide, by decide⟩] := hx
  simp only [List.mem_cons, List.not_mem_nil, or_false, reduceCtorEq, false_or] at hmem
  cases hmem
  unfold ReadsBack
  decide +kernel

theorem toRecord_ofRecord_iff_visit :
    (∀ x finite, .float x finite ∈ (Json.object visit).numbers → ReadsBack x) ∧
      Item.toRecord (Item.ofRecord visit) = .ok (Json.mapNumbersOfFields restored visit) ∧
      (Item.toRecord (Item.ofRecord visit) = .ok visit ↔
        ∀ n, .integer n ∈ (Json.object visit).numbers → n.val < 2 ^ 63) :=
  ⟨visit_reads, toRecord_ofRecord_iff visit visit_reads⟩

/-- The greatest unsigned integer is read as the double 2 ^ 64. -/
theorem toRecord_ofRecord_greatest :
    Item.toRecord (Item.ofRecord
        [("n", .number (.integer ⟨18446744073709551615, by decide, by decide⟩))]) =
      .ok [("n", .number (.float ⟨0x43F0000000000000⟩ rfl))] ∧
    Item.toRecord (Item.ofRecord
        [("n", .number (.integer ⟨18446744073709551615, by decide, by decide⟩))]) ≠
      .ok [("n", .number (.integer ⟨18446744073709551615, by decide, by decide⟩))] := by
  have hrestored : restored (.integer ⟨18446744073709551615, by decide, by decide⟩) =
      .float ⟨0x43F0000000000000⟩ rfl := by
    have hround : Binary64.ofInt 18446744073709551615 = ⟨0x43F0000000000000⟩ := by decide +kernel
    rw [restored, if_neg (by decide)]
    simp only [hround]
  have hread : Item.toRecord (Item.ofRecord
        [("n", .number (.integer ⟨18446744073709551615, by decide, by decide⟩))]) =
      .ok [("n", .number (.float ⟨0x43F0000000000000⟩ rfl))] := by
    refine (toRecord_ofRecord fun e he => ?_).trans ?_
    · rw [List.mem_singleton.mp he]
      exact readNumber_render (.integer ⟨18446744073709551615, by decide, by decide⟩)
        fun x finite h => by cases h
    · rw [Json.mapNumbersOfFields, Json.mapNumbers, hrestored]
      rfl
  refine ⟨hread, ?_⟩
  rw [hread]
  intro h
  cases h

end QueryCriteria.Dynamo
