import QueryCriteria.KeyValue.Memory
import QueryCriteria.Proofs.Entries

/-! Scans of the keys that begin with a text: as the keys ascend, the run that is cut out holds all of them. -/
namespace QueryCriteria.KeyValue

private theorem dropWhile_eq_filter {α : Type} {p : α → Bool} {l : List α}
    (h : l.Pairwise fun a b => p b = true → p a = true) :
    l.dropWhile p = l.filter fun a => !p a := by
  induction l with
  | nil => rfl
  | cons a l ih =>
    obtain ⟨hfirst, hrest⟩ := List.pairwise_cons.mp h
    rw [List.dropWhile_cons, List.filter_cons]
    cases ha : p a with
    | true => simpa using ih hrest
    | false =>
      have hall : ∀ b ∈ l, (!p b) = true := by
        intro b hb
        cases hpb : p b with
        | true => rw [hfirst b hb hpb] at ha; cases ha
        | false => rfl
      simp [List.filter_eq_self.mpr hall]

private theorem takeWhile_eq_filter {α : Type} {p : α → Bool} {l : List α}
    (h : l.Pairwise fun a b => p b = true → p a = true) : l.takeWhile p = l.filter p := by
  induction l with
  | nil => rfl
  | cons a l ih =>
    obtain ⟨hfirst, hrest⟩ := List.pairwise_cons.mp h
    rw [List.takeWhile_cons, List.filter_cons]
    cases ha : p a with
    | true => simpa using ih hrest
    | false =>
      have hnone : l.filter p = [] := by
        refine List.filter_eq_nil_iff.mpr fun b hb hpb => ?_
        rw [hfirst b hb hpb] at ha
        cases ha
      simp [hnone]

/-- What stands between a text and a longer one that begins with it begins with it as well. -/
private theorem isPrefix_of_between {s t k : List Char} (hlow : ¬ k < s) (hhigh : k < s ++ t) :
    s <+: k := by
  induction s generalizing k with
  | nil => exact List.nil_prefix
  | cons a s ih =>
    cases k with
    | nil => exact absurd (List.nil_lt_cons a s) hlow
    | cons b k =>
      rw [List.cons_lt_cons_iff, not_or] at hlow
      obtain ⟨hb, hk⟩ := hlow
      rw [List.cons_append, List.cons_lt_cons_iff] at hhigh
      rcases hhigh with hlt | ⟨rfl, hhigh⟩
      · exact absurd hlt hb
      have htail := ih (fun hlt => hk ⟨rfl, hlt⟩) hhigh
      exact List.cons_prefix_cons.mpr ⟨rfl, htail⟩

/-- A scan yields the records of all keys that begin with the text, in the order of their keys. -/
theorem range_eq_filter {records : Entries Record} (h : records.Ascending) (start : String) :
    Memory.range records start =
      (records.filter fun e => start.toList.isPrefixOf e.1.toList).map (·.2) := by
  have hbelow : records.Pairwise fun a b =>
      decide (b.1 < start) = true → decide (a.1 < start) = true := by
    refine h.imp fun hab hb => ?_
    exact decide_eq_true (String.lt_trans hab (of_decide_eq_true hb))
  have hbehind : (records.filter fun e => !decide (e.1 < start)).Pairwise fun a b =>
      start.toList.isPrefixOf b.1.toList = true → start.toList.isPrefixOf a.1.toList = true := by
    rw [List.pairwise_filter]
    refine h.imp fun {a b} hab ha _ hb => ?_
    rw [List.isPrefixOf_iff_prefix] at hb ⊢
    obtain ⟨rest, hrest⟩ := hb
    have hnot : ¬ a.1 < start := of_decide_eq_false (Bool.not_eq_true' _ |>.mp ha)
    have hlow : ¬ a.1.toList < start.toList := fun hlt => hnot (String.lt_iff.mpr hlt)
    refine isPrefix_of_between (t := rest) hlow ?_
    rw [hrest]
    exact String.lt_iff.mp hab
  rw [Memory.range, dropWhile_eq_filter hbelow, takeWhile_eq_filter hbehind, List.filter_filter]
  congr 1
  refine List.filter_congr fun e _ => ?_
  by_cases hp : start.toList.isPrefixOf e.1.toList = true
  · have hle : ¬ e.1.toList < start.toList := (List.isPrefixOf_iff_prefix.mp hp).le
    have hnot : ¬ e.1 < start := fun hlt => hle (String.lt_iff.mp hlt)
    simp [hp, hnot]
  · simp [hp]

end QueryCriteria.KeyValue
