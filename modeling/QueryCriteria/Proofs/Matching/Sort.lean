import Mathlib.Data.List.Perm.Basic
import QueryCriteria.Matching.Residual
import QueryCriteria.Proofs.Matching.Preorder
import QueryCriteria.Proofs.Matching.Tree

/-!
Sorting and filtering of a residual: no record is lost, and none is added. Where the comparison is
transitive on the records, they come out in order and ties as they were given, by whichever stable sort;
where it is not, a sort may crash.
-/
namespace QueryCriteria

namespace Record

theorem insertSorted_perm (order : Order) (record : Record) (records : List Record) :
    (insertSorted order record records).Perm (record :: records) := by
  induction records with
  | nil => exact .refl _
  | cons last before ih =>
    rw [insertSorted]
    split
    · exact (ih.cons last).trans (.swap record last before)
    · exact .refl _

theorem append_insertSorted_perm (order : Order) (record : Record) (rest sorted : List Record) :
    (rest ++ insertSorted order record sorted).Perm (record :: rest ++ sorted) :=
  ((insertSorted_perm order record sorted).append_left rest).trans List.perm_middle

theorem insertAll_perm (order : Order) (rest sorted : List Record) :
    (rest.foldl (fun sorted record => insertSorted order record sorted) sorted).Perm
      (rest ++ sorted) := by
  induction rest generalizing sorted with
  | nil => exact .refl sorted
  | cons record rest ih => exact (ih _).trans (append_insertSorted_perm order record rest sorted)

theorem sort_perm (order : Order) (records : List Record) : (sort order records).Perm records := by
  have hall := insertAll_perm order records []
  rw [List.append_nil] at hall
  exact (List.reverse_perm _).trans hall

/-- Whether two records have one place in an order. -/
def tied (order : Order) (a b : Record) : Bool :=
  compareIn order a b = .eq

/-- The records with none before one that it has to follow, and those that tie as they were given. -/
structure SortedFrom (order : Order) (records sorted : List Record) : Prop where
  perm : sorted.Perm records
  ordered : sorted.Pairwise fun a b => compareIn order a b ≠ .gt
  stable : ∀ record ∈ records, sorted.filter (tied order record) = records.filter (tied order record)

section Stable

variable {order : Order} {record : Record} {records : List Record}

theorem compareIn_self (order : Order) (record : Record) : compareIn order record record = .eq := by
  have h := compareIn_swap order record record
  cases hself : compareIn order record record with
  | eq => rfl
  | lt | gt =>
    rw [hself] at h
    cases h

theorem tied_self (order : Order) (record : Record) : tied order record record = true :=
  decide_eq_true (compareIn_self order record)

theorem Transitive.mono {more : List Record} (h : Transitive order more) (hsub : records ⊆ more) :
    Transitive order records :=
  fun a ha b hb c hc => h a (hsub ha) b (hsub hb) c (hsub hc)

/-- The records are listed last first, so that each one before stands behind in the list. -/
theorem insertSorted_ordered (h : Transitive order (record :: records))
    (hsorted : records.Pairwise fun a b => compareIn order b a ≠ .gt) :
    (insertSorted order record records).Pairwise fun a b => compareIn order b a ≠ .gt := by
  induction records with
  | nil => exact List.pairwise_singleton _ _
  | cons last before ih =>
    obtain ⟨hlast, hbefore⟩ := List.pairwise_cons.mp hsorted
    rw [insertSorted]
    split
    case isTrue hlt =>
      refine List.pairwise_cons.mpr ⟨fun r hr => ?_, ?_⟩
      · rcases List.mem_cons.mp ((insertSorted_perm order record before).mem_iff.mp hr) with rfl | hr
        · exact ne_of_eq_of_ne hlt Ordering.noConfusion
        · exact hlast r hr
      · refine ih (h.mono ?_) hbefore
        exact List.cons_subset_cons _ (List.subset_cons_self _ _)
    case isFalse hnot =>
      have hle : compareIn order last record ≠ .gt := by
        rw [compareIn_swap]
        exact fun hgt => hnot (Ordering.swap_eq_gt.mp hgt)
      refine List.pairwise_cons.mpr ⟨fun r hr => ?_, hsorted⟩
      rcases List.mem_cons.mp hr with rfl | hbehind
      · exact hle
      · exact h r (.tail _ hr) last (.tail _ (.head _)) record (.head _) (hlast r hbehind) hle

/-- Inserting a record moves it past none that ties with it. -/
theorem filter_insertSorted {r : Record} (h : Transitive order (r :: record :: records)) :
    (insertSorted order record records).filter (tied order r) =
      (record :: records).filter (tied order r) := by
  induction records with
  | nil => rfl
  | cons last before ih =>
    have hfewer : r :: record :: before ⊆ r :: record :: last :: before :=
      List.cons_subset_cons _ (List.cons_subset_cons _ (List.subset_cons_self _ _))
    rw [insertSorted]
    split
    case isTrue hlt =>
      rw [List.filter_cons, ih (h.mono hfewer), List.filter_cons, List.filter_cons, List.filter_cons]
      by_cases hrecord : tied order r record = true
      · have hnot : ¬ tied order r last = true := by
          intro hlast
          have hback : compareIn order last r = .eq := by
            rw [compareIn_swap, of_decide_eq_true hlast]
            rfl
          have hle := h last (.tail _ (.tail _ (.head _))) r (.head _) record (.tail _ (.head _))
            (ne_of_eq_of_ne hback Ordering.noConfusion)
            (ne_of_eq_of_ne (of_decide_eq_true hrecord) Ordering.noConfusion)
          rw [compareIn_swap, hlt] at hle
          exact hle rfl
        rw [if_pos hrecord, if_neg hnot, if_neg hnot, if_pos hrecord]
      · rw [if_neg hrecord, if_neg hrecord]
    case isFalse => rfl

theorem insertAll_ordered (rest sorted : List Record) (h : Transitive order (rest ++ sorted))
    (hsorted : sorted.Pairwise fun a b => compareIn order b a ≠ .gt) :
    (rest.foldl (fun sorted record => insertSorted order record sorted) sorted).Pairwise
      fun a b => compareIn order b a ≠ .gt := by
  induction rest generalizing sorted with
  | nil => exact hsorted
  | cons record rest ih =>
    have hinserted := append_insertSorted_perm order record rest sorted
    have hhead : record :: sorted ⊆ record :: rest ++ sorted :=
      List.cons_subset_cons _ (List.subset_append_right _ _)
    exact ih _ (h.mono hinserted.subset) (insertSorted_ordered (h.mono hhead) hsorted)

theorem filter_insertAll {r : Record} (rest sorted : List Record)
    (h : Transitive order (r :: (rest ++ sorted))) :
    (rest.foldl (fun sorted record => insertSorted order record sorted) sorted).filter
        (tied order r) =
      (rest.reverse ++ sorted).filter (tied order r) := by
  induction rest generalizing sorted with
  | nil => rfl
  | cons record rest ih =>
    have hinserted := append_insertSorted_perm order record rest sorted
    have hhead : r :: record :: sorted ⊆ r :: (record :: rest ++ sorted) :=
      List.cons_subset_cons _ (List.cons_subset_cons _ (List.subset_append_right _ _))
    rw [List.foldl_cons, ih _ (h.mono (hinserted.cons r).subset), List.filter_append,
      filter_insertSorted (h.mono hhead), ← List.filter_append, List.reverse_cons, List.append_assoc]
    rfl

theorem sortedFrom_sort (h : Transitive order records) :
    SortedFrom order records (sort order records) where
  perm := sort_perm order records
  ordered := by
    rw [sort, List.pairwise_reverse]
    refine insertAll_ordered records [] ?_ List.Pairwise.nil
    rw [List.append_nil]
    exact h
  stable record hrecord := by
    have hsub : record :: (records ++ []) ⊆ records := by
      rw [List.append_nil]
      exact List.cons_subset.mpr ⟨hrecord, List.Subset.refl _⟩
    rw [sort, List.filter_reverse, filter_insertAll records [] (h.mono hsub), List.append_nil,
      List.filter_reverse, List.reverse_reverse]

/-- Two lists in order with the same ties are one list. -/
theorem eq_of_ordered {s t : List Record} (hperm : s.Perm t)
    (hs : s.Pairwise fun a b => compareIn order a b ≠ .gt)
    (ht : t.Pairwise fun a b => compareIn order a b ≠ .gt)
    (hties : ∀ record ∈ s, s.filter (tied order record) = t.filter (tied order record)) : s = t := by
  induction s generalizing t with
  | nil => exact hperm.nil_eq
  | cons a s ih =>
    obtain ⟨b, t, rfl⟩ := List.exists_cons_of_ne_nil fun hnil =>
      List.cons_ne_nil a s (List.perm_nil.mp (hnil ▸ hperm))
    obtain ⟨ha, hsrest⟩ := List.pairwise_cons.mp hs
    obtain ⟨hb, htrest⟩ := List.pairwise_cons.mp ht
    -- Each head is behind nothing in either list, so the two tie, and ties stand in one order.
    have htie : tied order a b = true := by
      rcases List.mem_cons.mp (hperm.mem_iff.mpr (.head _)) with rfl | hmem
      · exact tied_self order b
      · rcases List.mem_cons.mp (hperm.mem_iff.mp (.head _)) with rfl | hmem'
        · exact tied_self order a
        · have hle := ha b hmem
          have hge := hb a hmem'
          rw [compareIn_swap] at hge
          refine decide_eq_true ?_
          cases hcase : compareIn order a b with
          | lt => exact absurd (congrArg Ordering.swap hcase) hge
          | eq => rfl
          | gt => exact absurd hcase hle
    have hhead := hties a (.head _)
    rw [List.filter_cons_of_pos (tied_self order a),
      List.filter_cons_of_pos htie] at hhead
    obtain rfl : a = b := (List.cons.inj hhead).1
    refine congrArg (a :: ·) (ih hperm.cons_inv hsrest htrest fun r hr => ?_)
    have hr := hties r (.tail _ hr)
    rw [List.filter_cons, List.filter_cons] at hr
    split at hr
    · exact (List.cons.inj hr).2
    · exact hr

/-- There is one way only to sort records and to keep ties as they were given. -/
theorem SortedFrom.unique {s t : List Record} (hs : SortedFrom order records s)
    (ht : SortedFrom order records t) : s = t := by
  refine eq_of_ordered (hs.perm.trans ht.perm.symm) hs.ordered ht.ordered fun record hrecord => ?_
  have hmem := hs.perm.mem_iff.mp hrecord
  rw [hs.stable record hmem, ht.stable record hmem]

end Stable

/--
A stable sort, with no more than is promised of it: it sorts if the comparison is transitive, and it
loses and adds no record unless it crashes.
-/
structure Sorting where
  sort? : Order → List Record → Option (List Record)
  sorts {order : Order} {records : List Record} (h : Transitive order records) :
    ∃ sorted, sort? order records = some sorted ∧ SortedFrom order records sorted
  perm {order : Order} {records sorted : List Record} (h : sort? order records = some sorted) :
    sorted.Perm records

namespace Sorting

variable {order : Order} {records : List Record}

/-- Where it is sure to sort, a stable sort has the result of insertion. -/
theorem sort?_eq (sorting : Sorting) (h : Transitive order records) :
    sorting.sort? order records = some (sort order records) := by
  obtain ⟨sorted, hsorted, hfrom⟩ := sorting.sorts h
  rw [hsorted, hfrom.unique (sortedFrom_sort h)]

/-- The sort that inserts so many records whatever the comparison says, and crashes with it on more. -/
def upTo (limit : Nat) : Sorting where
  sort? order records :=
    if records.length ≤ limit ∨ Transitive order records then some (sort order records) else none
  sorts {order records} h := ⟨sort order records, if_pos (.inr h), sortedFrom_sort h⟩
  perm {order records sorted} h := by
    split at h
    · exact Option.some.inj h ▸ sort_perm order records
    · cases h

end Sorting

end Record

namespace Residual

theorem sorted_perm (residual : Residual) (records : List Record) :
    (residual.sorted records).Perm records := by
  rw [sorted]
  split
  · exact Record.sort_perm residual.order records
  · exact .refl _

/-- Where the comparison is transitive on what is selected, no stable sort crashes or makes a difference. -/
theorem appliedBy?_eq_apply (sorting : Record.Sorting) {residual : Residual} {records : List Record}
    (h : Record.Transitive residual.order (residual.selected records)) :
    residual.appliedBy? sorting.sort? records = some (residual.apply records) := by
  rw [appliedBy?_eq, apply_eq, sortedBy?, sorted, sorting.sort?_eq h]
  split
  · rfl
  · rfl

/-- Criteria select the same records whether or not they count as unconstrained. -/
theorem selected_ofCriteria (c : Criteria) (records : List Record) :
    (ofCriteria c).selected records = records.filter (Criteria.selects · c) := by
  rw [selected, ofCriteria]
  by_cases hu : c.isUnconstrained = true
  · rw [if_pos hu]
    have hall : ∀ record ∈ records, Criteria.selects record c = true :=
      fun record _ => Criteria.selects_of_isUnconstrained hu record
    exact (List.filter_eq_self.mpr hall).symm
  · rw [if_neg hu]

end Residual

end QueryCriteria
