import QueryCriteria.Dynamo.Commands
import QueryCriteria.Proofs.Decimal.Numeral
import QueryCriteria.Proofs.Success

/-!
Keys and identifiers. All requests about one identifier carry one key, and the stored item carries it too.
Different identifiers have different keys as long as keys are texts; numeric keys do not tell apart the
spellings of one number.
-/
namespace QueryCriteria

theorem Json.ofInt64_inj {n m : Int64} : ofInt64 n = ofInt64 m ↔ n = m := by
  constructor
  · intro h
    have hsome : some n = some m := by
      rw [← WideInt.toInt64?_ofInt64 n, ← WideInt.toInt64?_ofInt64 m]
      injection h with h
      injection h with h
      rw [h]
    exact Option.some.inj hsome
  · rintro rfl
    rfl

namespace Dynamo.Table

open Decimal (Spells)

variable {table : Table} {id : String}

/-- A numeric key is what the identifier spells, if that fits 64 bits. -/
theorem numericKey?_eq_some_iff {n : Int64} : numericKey? id = some n ↔ Spells id.toList n.toInt := by
  unfold numericKey?
  constructor
  · intro h
    cases hread : Decimal.readInteger? id.toList with
    | none =>
      rw [hread] at h
      cases h
    | some m =>
      rw [hread] at h
      dsimp only at h
      split at h
      · rename_i hfits
        obtain rfl := Option.some.inj h
        rw [Int64.toInt_ofInt_of_le hfits.1 hfits.2]
        exact Decimal.readInteger?_eq_some_iff.mp hread
      · cases h
  · intro h
    rw [Decimal.readInteger?_eq_some_iff.mpr h]
    have hfits : -2 ^ 63 ≤ n.toInt ∧ n.toInt < 2 ^ 63 := ⟨n.le_toInt, n.toInt_lt⟩
    dsimp only
    rw [if_pos hfits, Int64.ofInt_toInt]

/-- The identifier's value is its number, if keys are numeric, and else its text. -/
theorem keyValue_eq_ok_iff {value : Json} : table.keyValue id = .ok value ↔
    if table.numericKeys then ∃ n : Int64, Spells id.toList n.toInt ∧ value = .ofInt64 n
    else value = .text id := by
  unfold keyValue
  split
  · simp only [← numericKey?_eq_some_iff]
    cases numericKey? id with
    | none => simp
    | some n => simp [eq_comm]
  · simp [eq_comm]

theorem exists_of_key_ok {key : Record} (h : table.key id = .ok key) :
    ∃ value, table.keyValue id = .ok value ∧ key = [(table.idField, value)] := by
  obtain ⟨value, hvalue, hkey⟩ := exists_of_bind_ok h
  exact ⟨value, hvalue, (Except.ok.inj hkey).symm⟩

/-- The requests about the identifier are about the item whose key attribute has the value. -/
structure Addresses (table : Table) (id : String) (value : Json) : Prop where
  find : table.commands.findById id = .ok (.getItem table.name [(table.idField, value)])
  delete : table.commands.delete id = .ok (.deleteItem table.name [(table.idField, value)])
  upsert (record : Record) : ∃ item,
    table.commands.upsert id record = .ok (.putItem table.name item) ∧
    Entries.get? item table.idField = some value ∧
    ∀ name ≠ table.idField, Entries.get? item name = Entries.get? record name

theorem addresses {value : Json} (h : table.keyValue id = .ok value) : table.Addresses id value where
  find := by simp only [commands, key, h]; rfl
  delete := by simp only [commands, key, h]; rfl
  upsert record := by
    refine ⟨Entries.insert record table.idField value, ?_, ?_, fun name hname => ?_⟩
    · simp only [commands, h]
      rfl
    · rw [Entries.get?_insert, if_pos rfl]
    · rw [Entries.get?_insert, if_neg hname.symm]

/-- Two identifiers have one value just if they are one text, or spell one number that is the key. -/
theorem keyValue_eq_iff {a b : String} {value other : Json} (ha : table.keyValue a = .ok value)
    (hb : table.keyValue b = .ok other) :
    value = other ↔ a = b ∨ table.numericKeys = true ∧ ∃ n, Spells a.toList n ∧ Spells b.toList n := by
  have hsame : a = b → value = other := by
    rintro rfl
    exact Except.ok.inj (ha.symm.trans hb)
  rw [keyValue_eq_ok_iff] at ha hb
  cases hnumeric : table.numericKeys with
  | false =>
    rw [hnumeric] at ha hb
    obtain rfl : value = .text a := ha
    obtain rfl : other = .text b := hb
    simp
  | true =>
    rw [hnumeric] at ha hb
    obtain ⟨n, hn, rfl⟩ := ha
    obtain ⟨m, hm, rfl⟩ := hb
    constructor
    · intro h
      rw [Json.ofInt64_inj.mp h] at hn
      exact .inr ⟨rfl, m.toInt, hn, hm⟩
    · rintro (h | ⟨_, k, hka, hkb⟩)
      · exact hsame h
      · have hint : n.toInt = m.toInt := (hn.unique hka).trans (hkb.unique hm)
        rw [Int64.toInt_inj.mp hint]

/--
Finding, deleting and storing under an identifier are about one item, that of the identifier's key; what is
stored differs from the record in the key attribute only. The keys of two identifiers are the same just if
the identifiers are, or if keys are numeric and both spell the same integer.
-/
theorem keys_identify_iff {a b : String} {key other : Record} (ha : table.key a = .ok key)
    (hb : table.key b = .ok other) :
    (∃ value, key = [(table.idField, value)] ∧ table.Addresses a value) ∧
    (key = other ↔
      a = b ∨ table.numericKeys = true ∧ ∃ n, Spells a.toList n ∧ Spells b.toList n) := by
  obtain ⟨value, hvalue, rfl⟩ := exists_of_key_ok ha
  obtain ⟨value', hvalue', rfl⟩ := exists_of_key_ok hb
  refine ⟨⟨value, rfl, addresses hvalue⟩, ?_⟩
  rw [← keyValue_eq_iff hvalue hvalue']
  simp

/-- A table whose keys are numbers. -/
def orders : Table := ⟨"orders", "id", true⟩

theorem keys_identify_iff_signed :
    (∃ value, ([("id", .ofInt64 (-7))] : Record) = [("id", value)] ∧ orders.Addresses "-7" value) ∧
    (([("id", .ofInt64 (-7))] : Record) = [("id", .ofInt64 7)] ↔
      "-7" = "7" ∨ orders.numericKeys = true ∧ ∃ n, Spells "-7".toList n ∧ Spells "7".toList n) := by
  have hfirst : orders.key "-7" = .ok [("id", .ofInt64 (-7))] := rfl
  have hsecond : orders.key "7" = .ok [("id", .ofInt64 7)] := rfl
  exact keys_identify_iff hfirst hsecond

/-- Leading zeros do not count, so what is stored under the one identifier is found under the other. -/
theorem keys_confuse_spellings :
    "7" ≠ "007" ∧ ∃ key, orders.key "7" = .ok key ∧ orders.key "007" = .ok key :=
  ⟨by decide, [("id", .ofInt64 7)], by rfl, by rfl⟩

end Dynamo.Table

end QueryCriteria
