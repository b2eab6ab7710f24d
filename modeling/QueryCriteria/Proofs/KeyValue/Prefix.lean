import Mathlib.Data.List.Induction
import QueryCriteria.Proofs.KeyValue.Range
import QueryCriteria.Proofs.KeyValue.Stored
import QueryCriteria.Proofs.Text.Utf8

/-!
Scans by the bytes of keys. Whatever commands a store has executed, a collection holds its entries in the
byte order of their keys, and the entries whose keys begin with a text stand together, from the first key
that is not below the text on.
-/
namespace QueryCriteria

/-- An entry with a key above all others is inserted at the end. -/
theorem Entries.insert_eq_append {α : Type} {m : Entries α} {key : String} {value : α}
    (h : ∀ e ∈ m, e.1 < key) : m.insert key value = m ++ [(key, value)] := by
  induction m with
  | nil => rfl
  | cons e rest ih =>
    obtain ⟨k, v⟩ := e
    obtain ⟨hk, hrest⟩ := List.forall_mem_cons.mp h
    have hne : key ≠ k := fun heq => String.lt_irrefl k (heq ▸ hk)
    rw [insert, if_neg (String.lt_asymm hk), if_neg hne, ih hrest, List.cons_append]

namespace KeyValue.Memory

/-- The store that commands leave of an empty one; commands that yield records change nothing. -/
def after (commands : List Command) : Memory :=
  commands.foldl (fun memory command => (memory.execute command).2) []

theorem after_concat (commands : List Command) (command : Command) :
    after (commands ++ [command]) = ((after commands).execute command).2 :=
  List.foldl_concat ..

theorem ascending_execute {memory : Memory} (h : ∀ name, (memory.collection name).Ascending)
    (command : Command) (name : String) : ((memory.execute command).2.collection name).Ascending := by
  cases command with
  | put collection id record => exact ascending_put h collection id record name
  | delete collection id => exact ascending_remove h collection id name
  | get | scan => exact h name

theorem ascending_after (commands : List Command) (name : String) :
    ((after commands).collection name).Ascending := by
  induction commands using List.reverseRecOn generalizing name with
  | nil => exact .nil
  | append_singleton commands command ih =>
    rw [after_concat]
    exact ascending_execute ih command name

/-- Entries with ascending keys are what is there after each of them was put, from the first to the last. -/
theorem collection_after_puts (name : String) {records : Entries Record} (h : records.Ascending) :
    (after (records.map fun e => .put name e.1 e.2)).collection name = records := by
  induction records using List.reverseRecOn with
  | nil => rfl
  | append_singleton records e ih =>
    obtain ⟨hrecords, -, hlast⟩ := List.pairwise_append.mp h
    have hlt : ∀ a ∈ records, a.1 < e.1 := fun a ha => hlast a ha e List.mem_cons_self
    rw [List.map_append, List.map_singleton, after_concat]
    change ((after _).put name e.1 e.2).collection name = _
    rw [collection_put, ih hrecords, Entries.insert_eq_append hlt]

/-- Entries in the byte order of their keys. -/
def ByteSorted (records : Entries Record) : Prop :=
  records.Pairwise fun a b => Text.utf8 a.1 < Text.utf8 b.1

theorem byteSorted_iff {records : Entries Record} : ByteSorted records ↔ records.Ascending := by
  have hkeys (a b : String × Record) : Text.utf8 a.1 < Text.utf8 b.1 ↔ a.1 < b.1 :=
    (Text.lt_iff_utf8_lt a.1 b.1).symm
  exact List.Pairwise.iff hkeys

theorem isPrefixOf_utf8 (start key : String) :
    (Text.utf8 start).isPrefixOf (Text.utf8 key) = start.toList.isPrefixOf key.toList := by
  rw [Bool.eq_iff_iff, List.isPrefixOf_iff_prefix, List.isPrefixOf_iff_prefix, Text.utf8_prefix_iff]

/--
A collection can hold any entries in the byte order of their keys, and it never holds others. A scan that
starts at the first key whose bytes are not below those of a text, and that ends before the first key whose
bytes do not begin with them, yields the records of all keys that begin with the text.
-/
theorem scan_finds_prefixed (name start : String) :
    (∀ records, (∃ commands, (after commands).collection name = records) ↔ ByteSorted records) ∧
    ∀ commands,
      (after commands).scan name (some start) =
        ((((after commands).collection name).dropWhile fun e =>
          decide (Text.utf8 e.1 < Text.utf8 start)).takeWhile fun e =>
            (Text.utf8 start).isPrefixOf (Text.utf8 e.1)).map (·.2) ∧
      (after commands).scan name (some start) =
        (((after commands).collection name).filter fun e =>
          (Text.utf8 start).isPrefixOf (Text.utf8 e.1)).map (·.2) := by
  refine ⟨fun records => ?_, fun commands => ⟨?_, ?_⟩⟩
  · rw [byteSorted_iff]
    constructor
    · rintro ⟨commands, rfl⟩
      exact ascending_after commands name
    · exact fun h => ⟨_, collection_after_puts name h⟩
  · simp only [isPrefixOf_utf8, ← Text.lt_iff_utf8_lt]
    rfl
  · simp only [isPrefixOf_utf8]
    exact range_eq_filter (ascending_after commands name) start

end KeyValue.Memory

end QueryCriteria
