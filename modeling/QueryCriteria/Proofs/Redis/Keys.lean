import Mathlib.Data.List.Sort
import Mathlib.Logic.Function.Basic
import QueryCriteria.Proofs.Entries
import QueryCriteria.Proofs.Text.Utf8
import QueryCriteria.Redis.Source

/-!
Keys of records, and lists of them. The keys of a collection are ordered as its identifiers, and the key
of a record tells its collection and its identifier.
-/
namespace QueryCriteria.Redis

/-- The key of a record in a collection whose name may be one. -/
def keyOf (collection id : String) : String :=
  collection ++ ":" ++ id

theorem recordKey_eq {collection : String} (h : isCollectionName collection = true) (id : String) :
    recordKey collection id = .ok (keyOf collection id) := by
  rw [recordKey, if_pos h, keyOf]

theorem toList_keyOf (collection id : String) :
    (keyOf collection id).toList = collection.toList ++ ':' :: id.toList := by
  simp [keyOf]

theorem isCollectionName_iff {name : String} :
    isCollectionName name = true ↔ name ≠ "" ∧ ':' ∉ name.toList := by
  simp only [isCollectionName, Bool.and_eq_true, decide_eq_true_eq, Bool.not_eq_true',
    List.contains_eq_mem, decide_eq_false_iff_not]

theorem recordKey_eq_ok_iff {collection id key : String} :
    recordKey collection id = .ok key ↔ isCollectionName collection = true ∧ key = keyOf collection id := by
  constructor
  · intro h
    by_cases hname : isCollectionName collection = true
    · rw [recordKey_eq hname, Except.ok.injEq] at h
      exact ⟨hname, h.symm⟩
    · rw [recordKey, if_neg hname] at h
      cases h
  · rintro ⟨hname, rfl⟩
    exact recordKey_eq hname id

theorem notMem_of_isCollectionName {collection : String} (h : isCollectionName collection = true) :
    ':' ∉ collection.toList :=
  (isCollectionName_iff.mp h).2

private theorem append_colon_inj {c d id x : List Char} (hc : ':' ∉ c) (hd : ':' ∉ d)
    (h : c ++ ':' :: id = d ++ ':' :: x) : c = d ∧ id = x := by
  induction c generalizing d with
  | nil =>
    cases d with
    | nil => exact ⟨rfl, (List.cons.inj h).2⟩
    | cons b d => exact absurd ((List.cons.inj h).1 ▸ List.mem_cons_self) hd
  | cons a c ih =>
    cases d with
    | nil => exact absurd ((List.cons.inj h).1 ▸ List.mem_cons_self) hc
    | cons b d =>
      obtain ⟨rfl, hrest⟩ := List.cons.inj h
      obtain ⟨rfl, rfl⟩ := ih (List.not_mem_of_not_mem_cons hc) (List.not_mem_of_not_mem_cons hd) hrest
      exact ⟨rfl, rfl⟩

theorem keyOf_inj {c d id x : String} (hc : isCollectionName c = true) (hd : isCollectionName d = true)
    (h : keyOf c id = keyOf d x) : c = d ∧ id = x := by
  have hlist := congrArg String.toList h
  rw [toList_keyOf, toList_keyOf] at hlist
  obtain ⟨hname, hid⟩ := append_colon_inj (notMem_of_isCollectionName hc)
    (notMem_of_isCollectionName hd) hlist
  exact ⟨String.toList_inj.mp hname, String.toList_inj.mp hid⟩

/-- A text that is stored under one key is found under this key only. -/
theorem update_keyOf {c d : String} (hc : isCollectionName c = true) (hd : isCollectionName d = true)
    (texts : String → Option String) (id x : String) (text : Option String) :
    Function.update texts (keyOf c id) text (keyOf d x) =
      if c = d ∧ id = x then text else texts (keyOf d x) := by
  split
  · rename_i hsame
    obtain ⟨rfl, rfl⟩ := hsame
    rw [Function.update_self]
  · rename_i hother
    exact Function.update_of_ne (fun he => hother (keyOf_inj hc hd he.symm)) _ _

theorem keyOf_lt_iff (collection id x : String) :
    keyOf collection id < keyOf collection x ↔ id < x := by
  rw [String.lt_iff, String.lt_iff, toList_keyOf, toList_keyOf, Text.append_lt_append_left,
    List.cons_lt_cons_iff]
  constructor
  · rintro (hcolon | ⟨-, hlt⟩)
    · exact absurd hcolon (by decide)
    · exact hlt
  · exact fun hlt => .inr ⟨rfl, hlt⟩

/-- The keys that begin with a key are those of the identifiers that begin with its identifier. -/
theorem keyOf_prefix_iff (collection start key : String) :
    (keyOf collection start).toList <+: key.toList ↔
      ∃ id, key = keyOf collection id ∧ start.toList <+: id.toList := by
  constructor
  · rintro ⟨rest, h⟩
    refine ⟨start ++ String.ofList rest, ?_, rest, by simp⟩
    rw [← String.toList_inj, ← h, toList_keyOf, toList_keyOf]
    simp
  · rintro ⟨id, rfl, rest, h⟩
    refine ⟨rest, ?_⟩
    rw [toList_keyOf, toList_keyOf, ← h]
    simp

/-- A key begins with another key if it is of the same collection and so do the identifiers. -/
theorem keyOf_prefix_keyOf_iff {c d : String} (hc : isCollectionName c = true)
    (hd : isCollectionName d = true) (start id : String) :
    (keyOf c start).toList <+: (keyOf d id).toList ↔ d = c ∧ start.toList <+: id.toList := by
  rw [keyOf_prefix_iff]
  constructor
  · rintro ⟨x, hkey, hprefix⟩
    obtain ⟨rfl, rfl⟩ := keyOf_inj hd hc hkey
    exact ⟨rfl, hprefix⟩
  · rintro ⟨rfl, hprefix⟩
    exact ⟨id, rfl, hprefix⟩

theorem distinct_eq (texts : List String) :
    distinct texts = Entries.keys (Entries.ofList (texts.map (·, ()))) := by
  rw [distinct, Entries.ofList, List.foldl_map]

theorem pairwise_distinct (texts : List String) : (distinct texts).Pairwise (· < ·) := by
  rw [distinct_eq, Entries.keys, List.pairwise_map]
  exact Entries.ascending_ofList _

theorem mem_distinct {texts : List String} {text : String} : text ∈ distinct texts ↔ text ∈ texts := by
  rw [distinct_eq, Entries.keys]
  simp [Entries.mem_ofList_iff]

/-- Ascending lists of the same texts are the same. -/
theorem distinct_eq_of_mem_iff {texts keys : List String} (hkeys : keys.Pairwise (· < ·))
    (h : ∀ key, key ∈ texts ↔ key ∈ keys) : distinct texts = keys :=
  (pairwise_distinct texts).eq_of_mem_iff hkeys fun {key} => by rw [mem_distinct, h]

theorem flatten_pieces {α : Type} (size : Nat) (items : List α) : (pieces size items).flatten = items := by
  fun_induction pieces size items with
  | case1 => rfl
  | case2 a rest ih => rw [List.flatten_cons, ih, List.cons_append, List.take_append_drop]

theorem pieces_map {α β : Type} (f : α → β) (size : Nat) (items : List α) :
    pieces size (items.map f) = (pieces size items).map (List.map f) := by
  fun_induction pieces size items with
  | case1 => rw [List.map_nil, pieces, List.map_nil]
  | case2 a rest ih =>
    rw [List.map_cons, pieces, List.map_cons, ← List.map_drop, ih, ← List.map_take, List.map_cons]

theorem ne_nil_of_mem_pieces {α : Type} {size : Nat} {items piece : List α}
    (h : piece ∈ pieces size items) : piece ≠ [] := by
  fun_induction pieces size items with
  | case1 => cases h
  | case2 a rest ih =>
    rcases List.mem_cons.mp h with rfl | h
    · exact List.cons_ne_nil _ _
    · exact ih h

end QueryCriteria.Redis
