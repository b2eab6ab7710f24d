import QueryCriteria.Decimal.Numeral

/-! Decimal digits of natural numbers are read back as the number. -/
namespace QueryCriteria.Decimal

theorem toList_toString (n : Nat) : (toString n).toList = Nat.toDigits 10 n := by
  simp [toString, Nat.repr]

theorem natOfDigits?_concat {cs : List Char} {n : Nat} (h : natOfDigits? cs = some n) {c : Char}
    (hc : c.isDigit = true) : natOfDigits? (cs ++ [c]) = some (10 * n + (c.toNat - '0'.toNat)) := by
  simp only [natOfDigits?] at h ⊢
  rw [List.foldlM_append, h]
  simp [hc]

private theorem digitChar_facts : ∀ d : Fin 10,
    d.val.digitChar.isDigit = true ∧ d.val.digitChar.toNat - '0'.toNat = d.val := by
  decide

theorem natOfDigits?_toDigits (n : Nat) : natOfDigits? (Nat.toDigits 10 n) = some n := by
  induction n using Nat.strongRecOn with
  | ind n ih =>
    rcases Nat.lt_or_ge n 10 with hn | hn
    · obtain ⟨hd, hv⟩ := digitChar_facts ⟨n, hn⟩
      have hone := natOfDigits?_concat (show natOfDigits? [] = some 0 from rfl) hd
      rwa [hv, Nat.mul_zero, Nat.zero_add, List.nil_append, ← Nat.toDigits_of_lt_base hn] at hone
    · obtain ⟨hd, hv⟩ := digitChar_facts ⟨n % 10, Nat.mod_lt n (by decide)⟩
      rw [Nat.toDigits_of_base_le (by decide) hn,
        natOfDigits?_concat (ih (n / 10) (by omega)) hd, hv, Nat.div_add_mod]

theorem toDigits_ne_nil (n : Nat) : Nat.toDigits 10 n ≠ [] := by
  rw [Nat.toDigits_eq_if (by decide)]
  split <;> simp

end QueryCriteria.Decimal
