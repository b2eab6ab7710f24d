import QueryCriteria.Proofs.Redis.Keys

/-!
Batches of keys. A scan may return keys in any order and several times; they are asked for once each, in
ascending order of their bytes, as many at once as a request may name. The set of the keys
determines the batches.
-/
namespace QueryCriteria.Redis

theorem length_of_mem_pieces {α : Type} {size : Nat} (hsize : 0 < size) {items piece : List α}
    (h : piece ∈ pieces size items) : piece.length ≤ size := by
  fun_induction pieces size items with
  | case1 => cases h
  | case2 a rest ih =>
    rcases List.mem_cons.mp h with rfl | h
    · rw [List.length_cons, List.length_take]
      omega
    · exact ih h

/-- Every piece but the last is as long as pieces may be. -/
theorem length_of_mem_dropLast_pieces {α : Type} {size : Nat} (hsize : 0 < size)
    {items piece : List α} (h : piece ∈ (pieces size items).dropLast) : piece.length = size := by
  fun_induction pieces size items with
  | case1 => cases h
  | case2 a rest ih =>
    by_cases hrest : rest.drop (size - 1) = []
    · rw [hrest, pieces] at h
      cases h
    · have hnext : pieces size (rest.drop (size - 1)) ≠ [] := by
        intro hnil
        have hflat := flatten_pieces size (rest.drop (size - 1))
        rw [hnil] at hflat
        exact hrest hflat.symm
      rw [List.dropLast_cons_of_ne_nil hnext] at h
      rcases List.mem_cons.mp h with rfl | h
      · have hlong : size - 1 < rest.length := Nat.lt_of_not_le fun hle => hrest (List.drop_eq_nil_of_le hle)
        rw [List.length_cons, List.length_take, Nat.min_eq_left (Nat.le_of_lt hlong)]
        omega
      · exact ih h

/-- Lists of this shape are the pieces of what they hold together. -/
theorem pieces_flatten {α : Type} {size : Nat} {lists : List (List α)}
    (hsizes : ∀ list ∈ lists, 1 ≤ list.length ∧ list.length ≤ size)
    (hfull : ∀ list ∈ lists.dropLast, list.length = size) : pieces size lists.flatten = lists := by
  induction lists with
  | nil => rw [List.flatten_nil, pieces]
  | cons list rest ih =>
    obtain ⟨⟨hpos, hle⟩, hmore⟩ := List.forall_mem_cons.mp hsizes
    obtain ⟨a, tail, rfl⟩ := List.exists_cons_of_length_pos hpos
    rw [List.length_cons] at hle
    rw [List.flatten_cons, List.cons_append, pieces]
    cases rest with
    | nil =>
      rw [List.flatten_nil, List.append_nil, List.take_of_length_le (by omega),
        List.drop_eq_nil_of_le (by omega), pieces]
    | cons next rest =>
      rw [List.dropLast_cons_of_ne_nil (List.cons_ne_nil next rest)] at hfull
      obtain ⟨hlist, hfull⟩ := List.forall_mem_cons.mp hfull
      have htail : tail.length = size - 1 := Nat.eq_sub_of_add_eq hlist
      rw [List.take_left' htail, List.drop_left' htail, ih hmore hfull]

/--
The batches in which keys are asked for: each key is in them once, in ascending order of bytes. No
batch is empty or names more than 100 keys, and only the last may name fewer.
-/
structure Batched (keys : List String) (batches : List (List String)) : Prop where
  mem_iff : ∀ key, key ∈ batches.flatten ↔ key ∈ keys
  ascending : batches.flatten.Pairwise fun a b => Text.utf8 a < Text.utf8 b
  sizes : ∀ batch ∈ batches, 1 ≤ batch.length ∧ batch.length ≤ 100
  full : ∀ batch ∈ batches.dropLast, batch.length = 100

namespace Batched

theorem pieces_distinct (keys : List String) : Batched keys (pieces pageSize (distinct keys)) where
  mem_iff key := by rw [flatten_pieces, mem_distinct]
  ascending := by
    rw [flatten_pieces]
    exact (pairwise_distinct keys).imp fun {a b} h => (Text.lt_iff_utf8_lt a b).mp h
  sizes _ hbatch :=
    ⟨List.length_pos_of_ne_nil (ne_nil_of_mem_pieces hbatch), length_of_mem_pieces (by decide) hbatch⟩
  full _ hbatch := length_of_mem_dropLast_pieces (by decide) hbatch

/-- Nothing but the set of the keys decides the batches. -/
theorem unique {keys others : List String} {batches more : List (List String)}
    (h : Batched keys batches) (hmore : Batched others more)
    (hsame : ∀ key, key ∈ others ↔ key ∈ keys) : more = batches := by
  have hascending : ∀ {keys : List String} {batches : List (List String)}, Batched keys batches →
      batches.flatten.Pairwise (· < ·) := by
    intro keys batches h
    exact h.ascending.imp fun {a b} hlt => (Text.lt_iff_utf8_lt a b).mpr hlt
  have hflat : more.flatten = batches.flatten :=
    (hascending hmore).eq_of_mem_iff (hascending h) fun {key} => by
      rw [hmore.mem_iff, hsame, h.mem_iff]
  rw [← pieces_flatten h.sizes h.full, ← hflat, pieces_flatten hmore.sizes hmore.full]

theorem eq_nil {batches : List (List String)} (h : Batched [] batches) : batches = [] := by
  apply List.eq_nil_iff_forall_not_mem.mpr
  intro batch hbatch
  obtain ⟨key, hkey⟩ := List.exists_mem_of_length_pos (h.sizes batch hbatch).1
  have hnone := (h.mem_iff key).mp (List.mem_flatten_of_mem hbatch hkey)
  cases hnone

end Batched

end QueryCriteria.Redis
