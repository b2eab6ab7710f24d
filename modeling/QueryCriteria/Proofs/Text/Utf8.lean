import Mathlib.Tactic.SplitIfs

/-!
The UTF-8 form of texts. Texts are ordered by code points; their UTF-8 forms, compared byte by byte,
stand in the same order.
-/
namespace QueryCriteria.Text

/-- The bytes of a text. -/
def utf8 (s : String) : List UInt8 :=
  s.toUTF8.data.toList

theorem utf8_eq_flatMap (s : String) : utf8 s = s.toList.flatMap String.utf8EncodeChar := by
  rw [utf8, String.toUTF8, ← String.utf8Encode_toList, List.utf8Encode, List.toList_data_toByteArray]

theorem utf8_append (s t : String) : utf8 (s ++ t) = utf8 s ++ utf8 t := by
  rw [utf8_eq_flatMap, utf8_eq_flatMap, utf8_eq_flatMap, String.toList_append, List.flatMap_append]

/-- The first list comes before the second, whatever follows either. -/
private def Below (as bs : List UInt8) : Prop :=
  ∀ us vs, as ++ us < bs ++ vs

private theorem below_of_head {a b : Nat} (h : a < b) (hb : b < 256) (as bs : List UInt8) :
    Below (UInt8.ofNat a :: as) (UInt8.ofNat b :: bs) := by
  intro us vs
  rw [List.cons_append, List.cons_append, List.cons_lt_cons_iff, UInt8.lt_iff_toNat_lt,
    UInt8.toNat_ofNat', UInt8.toNat_ofNat']
  left
  omega

private theorem below_append_left {as bs : List UInt8} (h : Below as bs) (p q : List UInt8) :
    Below (as ++ p) (bs ++ q) := by
  intro us vs
  rw [List.append_assoc, List.append_assoc]
  exact h _ _

/-- Lists with the same beginning are ordered as what follows it. -/
theorem append_lt_append_left {α : Type} [LT α] [Std.Irrefl fun a b : α => a < b] (p : List α)
    {us vs : List α} : p ++ us < p ++ vs ↔ us < vs := by
  induction p with
  | nil => rfl
  | cons x p ih => simp [ih]

/-- A byte that holds the lowest six bits decides between numbers that agree in all others. -/
private theorem below_continue {m n : Nat} (as bs : List UInt8) (h : m < n)
    (hlt : m / 64 < n / 64 → Below as bs) (heq : m / 64 = n / 64 → as = bs) :
    Below (as ++ [UInt8.ofNat (m % 64 + 128)]) (bs ++ [UInt8.ofNat (n % 64 + 128)]) := by
  by_cases hq : m / 64 = n / 64
  · have hr : m % 64 + 128 < n % 64 + 128 := by omega
    have hlast := below_of_head hr (by omega) [] []
    intro us vs
    rw [heq hq, List.append_assoc, List.append_assoc, append_lt_append_left]
    exact hlast us vs
  · have hq' : m / 64 < n / 64 := by omega
    exact below_append_left (hlt hq') _ _

/-- A first byte that holds all but the bits of the others. -/
private theorem below_lead {m n size mark : Nat} (h : m < n) (hn : n < size)
    (hmark : size + mark ≤ 256) :
    Below [UInt8.ofNat (m % size + mark)] [UInt8.ofNat (n % size + mark)] := by
  rw [Nat.mod_eq_of_lt (Nat.lt_trans h hn), Nat.mod_eq_of_lt hn]
  exact below_of_head (by omega) (by omega) [] []

private theorem below_two {m n : Nat} (h : m < n) (hn : n ≤ 2047) :
    Below [UInt8.ofNat (m / 64 % 32 + 192), UInt8.ofNat (m % 64 + 128)]
      [UInt8.ofNat (n / 64 % 32 + 192), UInt8.ofNat (n % 64 + 128)] := by
  refine below_continue [_] [_] h (fun hlt => ?_) (fun heq => ?_)
  · exact below_lead hlt (by omega) (by omega)
  · rw [heq]

private theorem below_three {m n : Nat} (h : m < n) (hn : n ≤ 65535) :
    Below [UInt8.ofNat (m / 4096 % 16 + 224), UInt8.ofNat (m / 64 % 64 + 128), UInt8.ofNat (m % 64 + 128)]
      [UInt8.ofNat (n / 4096 % 16 + 224), UInt8.ofNat (n / 64 % 64 + 128),
        UInt8.ofNat (n % 64 + 128)] := by
  have hdiv : ∀ v, v / 4096 = v / 64 / 64 := fun v => by omega
  rw [hdiv m, hdiv n]
  refine below_continue [_, _] [_, _] h (fun hlt => ?_) (fun heq => ?_)
  · refine below_continue [_] [_] hlt (fun hlt => ?_) (fun heq => ?_)
    · exact below_lead hlt (by omega) (by omega)
    · rw [heq]
  · rw [heq]

private theorem below_four {m n : Nat} (h : m < n) (hn : n < 1114112) :
    Below [UInt8.ofNat (m / 262144 % 8 + 240), UInt8.ofNat (m / 4096 % 64 + 128),
        UInt8.ofNat (m / 64 % 64 + 128), UInt8.ofNat (m % 64 + 128)]
      [UInt8.ofNat (n / 262144 % 8 + 240), UInt8.ofNat (n / 4096 % 64 + 128),
        UInt8.ofNat (n / 64 % 64 + 128), UInt8.ofNat (n % 64 + 128)] := by
  have hdiv : ∀ v, v / 4096 = v / 64 / 64 := fun v => by omega
  have hdiv' : ∀ v, v / 262144 = v / 64 / 64 / 64 := fun v => by omega
  rw [hdiv m, hdiv n, hdiv' m, hdiv' n]
  refine below_continue [_, _, _] [_, _, _] h (fun hlt => ?_) (fun heq => ?_)
  · refine below_continue [_, _] [_, _] hlt (fun hlt => ?_) (fun heq => ?_)
    · refine below_continue [_] [_] hlt (fun hlt => ?_) (fun heq => ?_)
      · exact below_lead hlt (by omega) (by omega)
      · rw [heq]
    · rw [heq]
  · rw [heq]

/-- A greater code point has more bytes, or as many and greater ones. -/
private theorem below_encode {c d : Char} (h : c < d) :
    Below (String.utf8EncodeChar c) (String.utf8EncodeChar d) := by
  have hlt : c.val.toNat < d.val.toNat := h
  have hmax : d.val.toNat < 1114112 := by
    rcases d.valid with hlow | ⟨-, hhigh⟩ <;> omega
  unfold String.utf8EncodeChar
  generalize c.val.toNat = m at hlt
  generalize d.val.toNat = n at hlt hmax
  dsimp only
  by_cases hn1 : n ≤ 127
  · rw [if_pos (by omega : m ≤ 127), if_pos hn1]
    exact below_of_head hlt (by omega) [] []
  by_cases hn2 : n ≤ 2047
  · rw [if_neg hn1, if_pos hn2, if_pos (by omega : m ≤ 2047)]
    by_cases hm1 : m ≤ 127
    · rw [if_pos hm1]
      exact below_of_head (by omega) (by omega) _ _
    · rw [if_neg hm1]
      exact below_two hlt hn2
  by_cases hn3 : n ≤ 65535
  · rw [if_neg hn1, if_neg hn2, if_pos hn3, if_pos (by omega : m ≤ 65535)]
    split_ifs with hm1 hm2
    · exact below_of_head (by omega) (by omega) _ _
    · exact below_of_head (by omega) (by omega) _ _
    · exact below_three hlt hn3
  · rw [if_neg hn1, if_neg hn2, if_neg hn3]
    split_ifs with hm1 hm2 hm3
    · exact below_of_head (by omega) (by omega) _ _
    · exact below_of_head (by omega) (by omega) _ _
    · exact below_of_head (by omega) (by omega) _ _
    · exact below_four hlt hmax

private theorem flatMap_lt_flatMap {s t : List Char} (h : s < t) :
    s.flatMap String.utf8EncodeChar < t.flatMap String.utf8EncodeChar := by
  induction s generalizing t with
  | nil =>
    cases t with
    | nil => exact absurd h (List.lt_irrefl _)
    | cons d t =>
      rw [List.flatMap_nil, List.flatMap_cons]
      cases hd : String.utf8EncodeChar d with
      | nil => exact absurd hd String.utf8EncodeChar_ne_nil
      | cons b bs => exact List.nil_lt_cons b _
  | cons c s ih =>
    cases t with
    | nil => exact absurd h (List.not_lt_nil _)
    | cons d t =>
      rw [List.flatMap_cons, List.flatMap_cons]
      rcases List.cons_lt_cons_iff.mp h with hlt | ⟨rfl, hrest⟩
      · exact below_encode hlt _ _
      · exact (append_lt_append_left _).mpr (ih hrest)

/-- Texts are ordered as their bytes are. -/
theorem lt_iff_utf8_lt (s t : String) : s < t ↔ utf8 s < utf8 t := by
  rw [utf8_eq_flatMap, utf8_eq_flatMap, String.lt_iff]
  refine ⟨flatMap_lt_flatMap, fun h => ?_⟩
  rcases Std.lt_trichotomy s.toList t.toList with hlt | heq | hgt
  · exact hlt
  · rw [heq] at h
    exact absurd h (List.lt_irrefl _)
  · exact absurd h (List.lt_asymm (flatMap_lt_flatMap hgt))

/-- No character begins with the bytes of another. -/
private theorem encode_append_inj {c d : Char} {us vs : List UInt8}
    (h : String.utf8EncodeChar c ++ us = String.utf8EncodeChar d ++ vs) : c = d ∧ us = vs := by
  rcases Std.lt_trichotomy c d with hlt | rfl | hgt
  · have hbelow := below_encode hlt us vs
    rw [h] at hbelow
    exact absurd hbelow (List.lt_irrefl _)
  · exact ⟨rfl, List.append_cancel_left h⟩
  · have hbelow := below_encode hgt vs us
    rw [h] at hbelow
    exact absurd hbelow (List.lt_irrefl _)

private theorem flatMap_prefix_iff {s t : List Char} :
    s.flatMap String.utf8EncodeChar <+: t.flatMap String.utf8EncodeChar ↔ s <+: t := by
  induction s generalizing t with
  | nil => simp
  | cons c s ih =>
    cases t with
    | nil => simp [String.utf8EncodeChar_ne_nil]
    | cons d t =>
      rw [List.flatMap_cons, List.flatMap_cons, List.cons_prefix_cons, ← ih]
      constructor
      · rintro ⟨rest, hrest⟩
        rw [List.append_assoc] at hrest
        obtain ⟨rfl, htail⟩ := encode_append_inj hrest
        exact ⟨rfl, rest, htail⟩
      · rintro ⟨rfl, hprefix⟩
        exact (List.prefix_append_right_inj _).mpr hprefix

/-- A text begins with another exactly if its bytes begin with the bytes of the other. -/
theorem utf8_prefix_iff (s t : String) : utf8 s <+: utf8 t ↔ s.toList <+: t.toList := by
  rw [utf8_eq_flatMap, utf8_eq_flatMap, flatMap_prefix_iff]

/-- A byte of a character is the character itself, or it is no ASCII character. -/
theorem toNat_of_mem_encode {c : Char} {b : UInt8} (h : b ∈ String.utf8EncodeChar c) :
    b.toNat = c.val.toNat ∨ 128 ≤ b.toNat := by
  unfold String.utf8EncodeChar at h
  dsimp only at h
  split_ifs at h
  all_goals
    simp only [List.mem_cons, List.not_mem_nil, or_false] at h
    rcases h with rfl | rfl | rfl | rfl
  all_goals
    rw [UInt8.toNat_ofNat']
    omega

end QueryCriteria.Text
