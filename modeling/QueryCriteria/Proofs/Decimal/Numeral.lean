import Mathlib.Data.List.TakeWhile
import QueryCriteria.Json.Basic
import QueryCriteria.Proofs.Decimal.Digits
import QueryCriteria.Proofs.Decimal.Rounding

/-!
Written numbers read back. The digits of an integer are read as the integer, and as the double nearest
to it. What shows a point or an exponent is never read as an integer.
-/
namespace QueryCriteria.Decimal

theorem isDigit_of_mem_toDigits {n : Nat} {c : Char} (h : c ∈ Nat.toDigits 10 n) : c.isDigit = true :=
  Nat.isDigit_of_mem_toDigits (by decide) (by decide) h

/-- A text of digits has no sign. -/
theorem takeSign_of_isDigit {digits : List Char} (hd : ∀ c ∈ digits, c.isDigit = true) :
    takeSign digits = (none, digits) := by
  unfold takeSign
  split
  · exact absurd (hd '+' List.mem_cons_self) (by decide)
  · exact absurd (hd '-' List.mem_cons_self) (by decide)
  · rfl

theorem takeSign_toDigits (n : Nat) : takeSign (Nat.toDigits 10 n) = (none, Nat.toDigits 10 n) :=
  takeSign_of_isDigit fun _ hc => isDigit_of_mem_toDigits hc

theorem natOfDigits?_eq_none {cs : List Char} {c : Char} (hc : c ∈ cs) (h : c.isDigit = false) :
    natOfDigits? cs = none := by
  unfold natOfDigits?
  generalize 0 = n
  induction cs generalizing n with
  | nil => cases hc
  | cons d rest ih =>
    rw [List.foldlM_cons]
    rcases List.mem_cons.mp hc with rfl | hrest
    · rw [h]
      rfl
    · split
      · exact ih hrest _
      · rfl

theorem mem_takeSign {cs : List Char} {c : Char} (hc : c ∈ cs) (hplus : c ≠ '+') (hminus : c ≠ '-') :
    c ∈ (takeSign cs).2 := by
  unfold takeSign
  split
  · exact (List.mem_cons.mp hc).resolve_left hplus
  · exact (List.mem_cons.mp hc).resolve_left hminus
  · exact hc

/-- What digits are worth; other characters are worth nothing. -/
theorem natOfDigits?_eq_some_iff {cs : List Char} {n : Nat} :
    natOfDigits? cs = some n ↔ (∀ c ∈ cs, c.isDigit = true) ∧ Nat.ofDigitChars 10 cs 0 = n := by
  unfold natOfDigits?
  generalize 0 = m
  induction cs generalizing m with
  | nil => exact ⟨fun h => ⟨nofun, Option.some.inj h⟩, fun h => congrArg some h.2⟩
  | cons d rest ih =>
    rw [List.foldlM_cons, List.forall_mem_cons, Nat.ofDigitChars_cons]
    by_cases hd : d.isDigit = true
    · rw [if_pos hd]
      refine (ih (10 * m + (d.toNat - '0'.toNat))).trans ?_
      simp only [hd, true_and]
    · rw [if_neg hd]
      exact iff_of_false nofun fun h => hd h.1.1

/-- The texts of an integer: digits, of which the first ones may be zeros, perhaps behind a sign. -/
inductive Spells : List Char → Int → Prop
  | unsigned {digits : List Char} (hne : digits ≠ []) (hd : ∀ c ∈ digits, c.isDigit = true) :
    Spells digits (Nat.ofDigitChars 10 digits 0)
  | plus {digits : List Char} (hne : digits ≠ []) (hd : ∀ c ∈ digits, c.isDigit = true) :
    Spells ('+' :: digits) (Nat.ofDigitChars 10 digits 0)
  | minus {digits : List Char} (hne : digits ≠ []) (hd : ∀ c ∈ digits, c.isDigit = true) :
    Spells ('-' :: digits) (-(Nat.ofDigitChars 10 digits 0 : Int))

/-- The texts that are read as an integer are its spellings. -/
theorem readInteger?_eq_some_iff {cs : List Char} {n : Int} : readInteger? cs = some n ↔ Spells cs n := by
  constructor
  · intro h
    unfold readInteger? at h
    dsimp only at h
    split at h
    · cases h
    · rename_i hempty
      have hne : (takeSign cs).2 ≠ [] := fun hnil => hempty (List.isEmpty_iff.mpr hnil)
      cases hm : natOfDigits? (takeSign cs).2 with
      | none =>
        rw [hm] at h
        cases h
      | some m =>
        rw [hm] at h
        obtain ⟨hd, rfl⟩ := natOfDigits?_eq_some_iff.mp hm
        obtain rfl := Option.some.inj h
        clear h hm hempty
        revert hd hne
        unfold takeSign
        split <;> intro hne hd
        · exact .plus hne hd
        · exact .minus hne hd
        · exact .unsigned hne hd
  · intro h
    unfold readInteger?
    cases h with
    | unsigned hne hd =>
      rw [takeSign_of_isDigit hd]
      simp [hne, natOfDigits?_eq_some_iff.mpr ⟨hd, rfl⟩]
    | plus hne hd => simp [takeSign, hne, natOfDigits?_eq_some_iff.mpr ⟨hd, rfl⟩]
    | minus hne hd => simp [takeSign, hne, natOfDigits?_eq_some_iff.mpr ⟨hd, rfl⟩]

theorem Spells.unique {cs : List Char} {n m : Int} (hn : Spells cs n) (hm : Spells cs m) : n = m :=
  Option.some.inj ((readInteger?_eq_some_iff.mpr hn).symm.trans (readInteger?_eq_some_iff.mpr hm))

/-- A character that is neither a digit nor a sign spoils an integer. -/
theorem readInteger?_eq_none {cs : List Char} {c : Char} (hc : c ∈ cs) (hplus : c ≠ '+')
    (hminus : c ≠ '-') (hdigit : c.isDigit = false) : readInteger? cs = none := by
  have hnone : natOfDigits? (takeSign cs).2 = none :=
    natOfDigits?_eq_none (mem_takeSign hc hplus hminus) hdigit
  unfold readInteger?
  dsimp only
  rw [hnone]
  split <;> rfl

theorem toList_toString_neg (n : Nat) :
    (toString (-((n + 1 : Nat) : Int))).toList = '-' :: Nat.toDigits 10 (n + 1) := by
  have h : toString (-((n + 1 : Nat) : Int)) = "-" ++ toString (n + 1) := rfl
  rw [h, String.toList_append, toList_toString]
  rfl

theorem readInteger?_toString (n : Int) : readInteger? (toString n).toList = some n := by
  obtain ⟨m, rfl | rfl⟩ := n.eq_nat_or_neg
  · have h : (toString (m : Int)).toList = Nat.toDigits 10 m := toList_toString m
    unfold readInteger?
    rw [h, takeSign_toDigits]
    simp [natOfDigits?_toDigits]
  · cases m with
    | zero => rfl
    | succ m =>
      unfold readInteger?
      rw [toList_toString_neg, takeSign]
      simp [natOfDigits?_toDigits]

/-- A text of digits has neither a point nor an exponent. -/
theorem numeral_toDigits (n : Nat) :
    Numeral.ofChars (Nat.toDigits 10 n) = ⟨none, Nat.toDigits 10 n, none, none⟩ := by
  have hmark : ∀ c ∈ Nat.toDigits 10 n, (!(c == 'e' || c == 'E')) = true := by
    intro c hc
    have hd := isDigit_of_mem_toDigits hc
    simp only [Bool.not_eq_true', Bool.or_eq_false_iff, beq_eq_false_iff_ne]
    constructor <;> rintro rfl <;> exact absurd hd (by decide)
  have hpoint : ∀ c ∈ Nat.toDigits 10 n, (c != '.') = true := by
    intro c hc
    have hd := isDigit_of_mem_toDigits hc
    rw [bne_iff_ne]
    rintro rfl
    exact absurd hd (by decide)
  have hmantissa := List.takeWhile_eq_self_iff.mpr hmark
  have hexponent := List.dropWhile_eq_nil_iff.mpr hmark
  have hwhole := List.takeWhile_eq_self_iff.mpr hpoint
  have hfraction := List.dropWhile_eq_nil_iff.mpr hpoint
  unfold Numeral.ofChars
  rw [takeSign_toDigits]
  simp only [hmantissa, hexponent, hwhole, hfraction]

theorem toLower_of_isDigit {c : Char} (h : c.isDigit = true) : c.toLower = c := by
  have hupper : ¬ (c.val ≥ 'A'.val ∧ c.val ≤ 'Z'.val) := by
    rintro ⟨hA, -⟩
    have hle : c.val ≤ '9'.val := (decide_eq_true_eq.mp (Bool.and_eq_true_iff.mp h).2)
    exact absurd (UInt32.le_trans hA hle) (by decide)
  unfold Char.toLower
  rw [dif_neg hupper]

/-- A text of digits spells neither infinity nor NaN. -/
theorem word_toDigits (n : Nat) (word : String) (h : 'n' ∈ word.toList) :
    (String.ofList (lowerChars (Nat.toDigits 10 n)) == word) = false := by
  rw [beq_eq_false_iff_ne]
  rintro rfl
  rw [String.toList_ofList, lowerChars, List.mem_map] at h
  obtain ⟨c, hc, hn⟩ := h
  have hd := isDigit_of_mem_toDigits hc
  rw [toLower_of_isDigit hd] at hn
  subst hn
  exact absurd hd (by decide)

theorem ofDecimal_zero {n : Nat} (h : Binary64.digitCount n ≤ 310) :
    Binary64.ofDecimal false n 0 = Binary64.ofInt n := by
  have hcast : decide ((n : Int) < 0) = false := by simp
  unfold Binary64.ofDecimal Binary64.ofInt
  rw [hcast, Int.natAbs_natCast]
  by_cases hz : n = 0
  · subst hz
    rfl
  · have hlow : ¬ ((Binary64.digitCount n : Int) < -330) := by omega
    have hhigh : ¬ (310 < (Binary64.digitCount n : Int)) := by omega
    have hone : Binary64.power 10 0 = 1 := rfl
    simp [hz, hlow, hhigh, hone]

/-- An integer of some hundred digits at most is read as the double nearest to it. -/
theorem readFloat?_toDigits {n : Nat} (h : Binary64.digitCount n ≤ 310) :
    readFloat? (Nat.toDigits 10 n) = some (Binary64.ofInt n) := by
  have hsome : (Nat.toDigits 10 n).isEmpty = false := by simp
  have hexponent : natOfDigits? [] = some 0 := rfl
  unfold readFloat?
  rw [takeSign_toDigits]
  simp only [word_toDigits n "inf" (by decide), word_toDigits n "infinity" (by decide),
    word_toDigits n "nan" (by decide), numeral_toDigits, Numeral.someDigits, hsome]
  simp [Numeral.toBinary64?, Numeral.exponentDigits, Numeral.negative, natOfDigits?_toDigits,
    hexponent, ofDecimal_zero h]

theorem point_mem_plain (digits : String) (exponent : Int) : '.' ∈ (plain true digits exponent).toList := by
  unfold plain
  split
  · simp
  · dsimp only
    split
    · simp
    · simp

theorem mark_mem_scientific (digits : String) (exponent : Int) :
    'e' ∈ (scientific digits exponent).toList := by
  simp [scientific]

theorem exists_mark_mem_render {layout : Layout} (h : layout.pointZero = true) (x : Binary64) :
    ∃ c ∈ (layout.render x).toList, c = '.' ∨ c = 'e' := by
  have hbody (positional : Bool) (digits : String) (exponent : Int) :
      ∃ c ∈ (if positional then plain true digits exponent else scientific digits exponent).toList,
        c = '.' ∨ c = 'e' := by
    cases positional
    · exact ⟨'e', mark_mem_scientific digits exponent, .inr rfl⟩
    · exact ⟨'.', point_mem_plain digits exponent, .inl rfl⟩
  unfold Layout.render
  rw [h]
  dsimp only
  split
  · obtain ⟨c, hc, hmark⟩ := hbody _ _ _
    refine ⟨c, ?_, hmark⟩
    rw [String.toList_append]
    exact List.mem_append_right _ hc
  · exact hbody _ _ _

/-- A layout that shows the point of integral doubles writes no integers. -/
theorem readInteger?_render {layout : Layout} (h : layout.pointZero = true) (x : Binary64) :
    readInteger? (layout.render x).toList = none := by
  obtain ⟨c, hc, rfl | rfl⟩ := exists_mark_mem_render h x
  · exact readInteger?_eq_none hc (by decide) (by decide) (by decide)
  · exact readInteger?_eq_none hc (by decide) (by decide) (by decide)

end QueryCriteria.Decimal
