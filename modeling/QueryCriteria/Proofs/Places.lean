import Mathlib.Data.List.Infix

/-! Runs of a list that begin at a known place, for parts of a text whose places are numbered through. -/
namespace QueryCriteria

variable {α : Type} {l m all : List α} {k : Nat}

/-- Of two parts that stand together from a place on, the second begins where the first ends. -/
theorem places_append (h : l ++ m <+: all.drop k) :
    l <+: all.drop k ∧ m <+: all.drop (k + l.length) := by
  obtain ⟨rest, hrest⟩ := h
  refine ⟨⟨m ++ rest, by rw [← hrest, List.append_assoc]⟩, rest, ?_⟩
  rw [← List.drop_drop, ← hrest, List.append_assoc, List.drop_left]

theorem place_head {a : α} (h : a :: l <+: all.drop k) : all[k]? = some a := by
  obtain ⟨rest, hrest⟩ := h
  rw [← Nat.add_zero k, ← List.getElem?_drop, ← hrest]
  rfl

theorem places_tail {a : α} (h : a :: l <+: all.drop k) : l <+: all.drop (k + 1) :=
  (places_append (l := [a]) h).2

end QueryCriteria
