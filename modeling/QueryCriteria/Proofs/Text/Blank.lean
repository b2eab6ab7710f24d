import Mathlib.Data.List.TakeWhile
import QueryCriteria.Text.Blank

/-! What trimming leaves of a text: no new character, and nothing exactly if all of them are blank. -/
namespace QueryCriteria.Text

theorem trimChars_sublist (cs : List Char) : (trimChars cs).Sublist cs := by
  have hend (l : List Char) : (trimEnd l).Sublist l := by
    have h := (List.dropWhile_sublist (l := l.reverse) isBlank).reverse
    rwa [List.reverse_reverse] at h
  exact (hend _).trans (List.dropWhile_sublist isBlank)

theorem mem_of_mem_trim {s : String} {c : Char} (h : c ∈ (trim s).toList) : c ∈ s.toList := by
  rw [trim, String.toList_ofList] at h
  exact (trimChars_sublist s.toList).subset h

theorem trim_eq_empty_iff {s : String} : trim s = "" ↔ ∀ c ∈ s.toList, isBlank c = true := by
  have hnil : trim s = "" ↔ trimChars s.toList = [] := by
    rw [trim, ← String.toList_inj, String.toList_ofList, String.toList_empty]
  rw [hnil, ← List.dropWhile_eq_nil_iff, trimChars, trimEnd, List.reverse_eq_nil_iff]
  constructor
  · intro h
    -- Otherwise the first character that is left at the front would be blank and not blank.
    by_contra hne
    have hblank : isBlank ((s.toList.dropWhile isBlank).head hne) = true :=
      List.dropWhile_eq_nil_iff.mp h _ (List.mem_reverse.mpr (List.head_mem hne))
    rw [List.head_dropWhile_not isBlank hne] at hblank
    cases hblank
  · intro h
    rw [h]
    rfl

end QueryCriteria.Text
