import Mathlib.Algebra.Group.Nat.Defs
import QueryCriteria.Decimal.Binary64

/-!
Integers rounded to doubles. The double of an integer is read off its leading bits, so rounding keeps
the order of integers, and those of 64 bits stay far below infinity.
-/
namespace QueryCriteria.Binary64

section Quotient

variable {num more den k : Nat}

/-- A quotient is rounded down below the middle, and on it if it is even there. -/
theorem roundDiv_eq (num den : Nat) :
    roundDiv num den =
      if 2 * (num % den) < den ∨ 2 * (num % den) = den ∧ num / den % 2 = 0 then num / den
      else num / den + 1 := by
  unfold roundDiv
  dsimp only
  split
  · rename_i hlt
    rw [if_pos (.inl (Nat.compare_eq_lt.mp hlt))]
  · rename_i hgt
    rw [Nat.compare_eq_gt] at hgt
    rw [if_neg (by omega)]
  · rename_i hmid
    rw [Nat.compare_eq_eq] at hmid
    by_cases heven : num / den % 2 = 0
    · simp [hmid, heven]
    · simp [hmid, heven]

theorem le_roundDiv (hden : 0 < den) (h : k * den ≤ num) : k ≤ roundDiv num den := by
  have hq : k ≤ num / den := (Nat.le_div_iff_mul_le hden).mpr h
  rw [roundDiv_eq]
  split <;> omega

theorem roundDiv_mul (k : Nat) (hden : 0 < den) : roundDiv (k * den) den = k := by
  rw [roundDiv_eq, Nat.mul_mod_left, if_pos (.inl hden), Nat.mul_div_cancel k hden]

/-- On one quotient, more of a rest is rounded up no less often. -/
theorem roundDiv_mono (h : num ≤ more) : roundDiv num den ≤ roundDiv more den := by
  have hquotient := Nat.div_le_div_right (c := den) h
  have hrest : num / den = more / den → num % den ≤ more % den := by
    intro heq
    have hd := Nat.div_add_mod num den
    have hd' := Nat.div_add_mod more den
    rw [heq] at hd
    omega
  rw [roundDiv_eq, roundDiv_eq]
  split <;> split <;> omega

theorem roundDiv_le (hden : 0 < den) (h : num ≤ k * den) : roundDiv num den ≤ k :=
  Nat.le_trans (roundDiv_mono h) (Nat.le_of_eq (roundDiv_mul k hden))

end Quotient

/-- An integer over one power of two or times another: the one that shortens it, or else lengthens it. -/
theorem scaled_one (n L k : Nat) : scaled n 1 ((L : Int) - k) = (n * 2 ^ (k - L), 2 ^ (L - k)) := by
  unfold scaled
  have hup : (-((L : Int) - k)).toNat = k - L := by omega
  have hdown : ((L : Int) - k).toNat = L - k := by omega
  simp only [power, hup, hdown, Nat.one_mul]
  rfl

section Leading

variable {n : Nat}

/-- The leading `k` bits of an integer, which has `L` more or fewer of them. -/
theorem leading_bounds (h : n ≠ 0) (k : Nat) :
    2 ^ k * 2 ^ (n.log2 - k) ≤ n * 2 ^ (k - n.log2) ∧
      n * 2 ^ (k - n.log2) ≤ 2 ^ (k + 1) * 2 ^ (n.log2 - k) := by
  have hlow := Nat.log2_self_le h
  have hhigh := Nat.le_of_lt (Nat.lt_log2_self (n := n))
  rcases Nat.le_total n.log2 k with hle | hle
  · have hz : n.log2 - k = 0 := by omega
    rw [hz, Nat.pow_zero, Nat.mul_one, Nat.mul_one]
    constructor
    · calc 2 ^ k = 2 ^ n.log2 * 2 ^ (k - n.log2) := by rw [← Nat.pow_add]; congr 1; omega
        _ ≤ n * 2 ^ (k - n.log2) := Nat.mul_le_mul_right _ hlow
    · calc n * 2 ^ (k - n.log2) ≤ 2 ^ (n.log2 + 1) * 2 ^ (k - n.log2) := Nat.mul_le_mul_right _ hhigh
        _ = 2 ^ (k + 1) := by rw [← Nat.pow_add]; congr 1; omega
  · have hz : k - n.log2 = 0 := by omega
    rw [hz, Nat.pow_zero, Nat.mul_one, ← Nat.pow_add, ← Nat.pow_add]
    constructor
    · rwa [show k + (n.log2 - k) = n.log2 by omega]
    · rwa [show k + 1 + (n.log2 - k) = n.log2 + 1 by omega]

theorem lastPlace_one (h : n ≠ 0) : lastPlace n 1 = n.log2 - 52 := by
  have hone : Nat.log2 1 = 0 := rfl
  have hguess : max (-1074) ((n.log2 : Int) - (Nat.log2 1 : Nat) - 53) = (n.log2 : Int) - (53 : Nat) := by
    rw [hone]
    omega
  have hbig : ¬ n * 2 ^ (53 - n.log2) / 2 ^ (n.log2 - 53) < 2 ^ 53 := by
    rw [Nat.not_lt, Nat.le_div_iff_mul_le (Nat.two_pow_pos _)]
    exact (leading_bounds h 53).1
  unfold lastPlace
  simp only [hguess, scaled_one]
  rw [if_neg hbig]
  omega

/-- The magnitude of the double nearest to a natural number. -/
def integerMagnitude (n : Nat) : Nat :=
  if n = 0 then 0
  else (n.log2 + 1022) * 2 ^ 52 + roundDiv (n * 2 ^ (52 - n.log2)) (2 ^ (n.log2 - 52))

theorem ofRatio_one (negative : Bool) (n : Nat) :
    ofRatio negative n 1 = ofMagnitude negative (min (integerMagnitude n) infinityMagnitude) := by
  unfold ofRatio integerMagnitude
  by_cases h : n = 0
  · subst h
    rfl
  · have hz : (n == 0) = false := by simpa using h
    have hp : ((n.log2 : Int) - 52 + 1074).toNat = n.log2 + 1022 := by omega
    have hs : scaled n 1 ((n.log2 : Int) - 52) = _ := scaled_one n n.log2 52
    simp only [hz, h, lastPlace_one h, hs, hp, if_false, Bool.false_eq_true]

theorem integerMagnitude_bounds (h : n ≠ 0) :
    (n.log2 + 1023) * 2 ^ 52 ≤ integerMagnitude n ∧ integerMagnitude n ≤ (n.log2 + 1024) * 2 ^ 52 := by
  obtain ⟨hlow, hhigh⟩ := leading_bounds h 52
  have hpos := Nat.two_pow_pos (n.log2 - 52)
  have hle := le_roundDiv hpos hlow
  have hge := roundDiv_le hpos hhigh
  unfold integerMagnitude
  rw [if_neg h]
  omega

theorem integerMagnitude_mono {m : Nat} (h : m ≤ n) : integerMagnitude m ≤ integerMagnitude n := by
  by_cases hm : m = 0
  · subst hm
    exact Nat.zero_le _
  · have hn : n ≠ 0 := by omega
    have hlog : m.log2 ≤ n.log2 := (Nat.le_log2 hn).mpr (Nat.le_trans (Nat.log2_self_le hm) h)
    rcases Nat.lt_or_eq_of_le hlog with hlt | heq
    · have hup := (integerMagnitude_bounds hm).2
      have hdown := (integerMagnitude_bounds hn).1
      omega
    · unfold integerMagnitude
      rw [if_neg hm, if_neg hn, heq]
      exact Nat.add_le_add_left (roundDiv_mono (Nat.mul_le_mul_right _ h)) _

end Leading

section Sign

variable {negative : Bool} {magnitude : Nat}

theorem toNat_ofMagnitude (h : magnitude < 2 ^ 63) :
    (ofMagnitude negative magnitude).bits.toNat = if negative then 2 ^ 63 + magnitude else magnitude := by
  unfold ofMagnitude
  rw [UInt64.toNat_ofNat']
  split <;> omega

theorem magnitude_ofMagnitude (h : magnitude < 2 ^ 63) :
    (ofMagnitude negative magnitude).magnitude = magnitude := by
  unfold Binary64.magnitude
  rw [toNat_ofMagnitude h]
  split <;> omega

theorem negative_ofMagnitude (h : magnitude < 2 ^ 63) :
    (ofMagnitude negative magnitude).negative = negative := by
  unfold Binary64.negative
  rw [toNat_ofMagnitude h]
  cases negative
  · simpa using h
  · simp

end Sign

private theorem capped_lt (n : Nat) : min (integerMagnitude n) infinityMagnitude < 2 ^ 63 := by
  unfold infinityMagnitude
  omega

theorem magnitude_ofInt (n : Int) :
    (ofInt n).magnitude = min (integerMagnitude n.natAbs) infinityMagnitude := by
  rw [ofInt, ofRatio_one, magnitude_ofMagnitude (capped_lt _)]

theorem negative_ofInt (n : Int) : (ofInt n).negative = decide (n < 0) := by
  rw [ofInt, ofRatio_one, negative_ofMagnitude (capped_lt _)]

theorem isNaN_ofInt (n : Int) : (ofInt n).isNaN = false := by
  rw [isNaN, magnitude_ofInt]
  exact decide_eq_false (by omega)

theorem orderKey_ofInt (n : Int) :
    (ofInt n).orderKey =
      if n < 0 then -((min (integerMagnitude n.natAbs) infinityMagnitude : Nat) : Int)
      else (min (integerMagnitude n.natAbs) infinityMagnitude : Nat) := by
  rw [orderKey, negative_ofInt, magnitude_ofInt]
  simp only [decide_eq_true_eq]

/-- Rounding keeps the order of integers. -/
theorem orderKey_ofInt_mono {m n : Int} (h : m ≤ n) : (ofInt m).orderKey ≤ (ofInt n).orderKey := by
  rw [orderKey_ofInt, orderKey_ofInt]
  split
  · split
    · have hmono : integerMagnitude n.natAbs ≤ integerMagnitude m.natAbs :=
        integerMagnitude_mono (by omega)
      omega
    · omega
  · rw [if_neg (by omega)]
    have hmono : integerMagnitude m.natAbs ≤ integerMagnitude n.natAbs :=
      integerMagnitude_mono (by omega)
    omega

/-- An integer of at most 64 bits has a finite double. -/
theorem isFinite_ofInt {n : Int} (h : n.natAbs < 2 ^ 64) : (ofInt n).isFinite = true := by
  have hsmall : integerMagnitude n.natAbs < infinityMagnitude := by
    by_cases hz : n.natAbs = 0
    · rw [hz]
      decide
    · have hlog : n.natAbs.log2 < 64 := (Nat.log2_lt hz).mpr h
      have hup := (integerMagnitude_bounds hz).2
      unfold infinityMagnitude
      omega
  rw [isFinite, magnitude_ofInt]
  exact decide_eq_true (by omega)

end QueryCriteria.Binary64
