import QueryCriteria.Proofs.Success
import QueryCriteria.Search.Commands

/-!
Pages and the window of results. Offsets and limits are 64-bit numbers, and so is the window. The page of
a request lies in the window, and what lies outside is refused, with one exception: the sum of an offset
and a limit is capped at the largest 64-bit number, so a window of just that size never notices that the
page reaches beyond it.
-/
namespace QueryCriteria.Search

variable {window : UInt64} {limit offset : Option UInt64} {c : Criteria}

/-- Where the page begins; without an offset it begins with the first result. -/
def firstOf (offset : Option UInt64) : Nat :=
  (offset.getD 0).toNat

/--
No page of the window is asked for: an offset other than zero is not before the end of the window, or the
limit reaches beyond its end.
-/
def Outside (window : UInt64) (limit offset : Option UInt64) : Prop :=
  (0 < firstOf offset ∧ window.toNat ≤ firstOf offset) ∨
    ∃ n ∈ limit, window.toNat < firstOf offset + n.toNat

/-- The page begins in the widest window that there is, and ends behind the last 64-bit number. -/
def Overlooked (window : UInt64) (limit offset : Option UInt64) : Prop :=
  window.toNat = 2 ^ 64 - 1 ∧ firstOf offset < window.toNat ∧
    ∃ n ∈ limit, 2 ^ 64 ≤ firstOf offset + n.toNat

/-- What is refused: a sum that is compared with the window is the largest 64-bit number at most. -/
def Refused (window : UInt64) (limit offset : Option UInt64) : Prop :=
  (0 < firstOf offset ∧ window.toNat ≤ firstOf offset) ∨
    ∃ n ∈ limit, window.toNat < min (firstOf offset + n.toNat) (2 ^ 64 - 1)

theorem refused_iff : Refused window limit offset ↔
    Outside window limit offset ∧ ¬ Overlooked window limit offset := by
  have hwindow : window.toNat < 2 ^ 64 := window.toNat_lt
  cases limit with
  | none => simp [Refused, Outside, Overlooked]
  | some n =>
    simp only [Refused, Outside, Overlooked, Option.mem_def, Option.some.injEq, exists_eq_left']
    omega

/-- What is refused has no page; of what is not, the limit is the size if there is one. -/
theorem page_eq_ok_iff {p : Page} : page window limit offset = .ok p ↔
    ¬ Refused window limit offset ∧
      p = ⟨offset.getD 0, limit.getD (window - offset.getD 0)⟩ := by
  have hbehind : (decide (0 < offset.getD 0) && decide (window ≤ offset.getD 0)) = true ↔
      0 < firstOf offset ∧ window.toNat ≤ firstOf offset := by
    simp [firstOf, UInt64.lt_iff_toNat_lt, UInt64.le_iff_toNat_le]
  unfold page
  dsimp only
  by_cases hfirst : 0 < firstOf offset ∧ window.toNat ≤ firstOf offset
  · rw [if_pos (hbehind.mpr hfirst)]
    exact iff_of_false nofun fun h => h.1 (.inl hfirst)
  · rw [if_neg (mt hbehind.mp hfirst)]
    cases limit with
    | none =>
      have hopen : ¬ Refused window none offset := by
        rintro (h | ⟨_, h, _⟩)
        · exact hfirst h
        · cases h
      simp [hopen, eq_comm]
    | some n =>
      have hlimit : Refused window (some n) offset ↔
          window.toNat < min (firstOf offset + n.toNat) (2 ^ 64 - 1) := by
        simp [Refused, hfirst]
      rw [hlimit]
      dsimp only
      split
      · rename_i hbeyond
        exact iff_of_false nofun fun h => h.1 hbeyond
      · rename_i hwithin
        constructor
        · intro h
          exact ⟨hwithin, (Except.ok.inj h).symm⟩
        · rintro ⟨_, rfl⟩
          rfl

theorem kind_of_page {e : StoreError} (h : page window limit offset = .error e) :
    e.kind = .inexpressible := by
  unfold page at h
  dsimp only at h
  split at h
  · obtain rfl := Except.error.inj h
    rfl
  · split at h
    · cases h
    · split at h
      · obtain rfl := Except.error.inj h
        rfl
      · cases h

theorem body_eq_error_iff {e : StoreError} :
    body window c = .error e ↔ page window c.limit c.offset = .error e := by
  refine bind_eq_error_iff.trans (or_iff_left ?_)
  rintro ⟨p, _, h⟩
  cases h

/-- The body of a request shows the page: its size, and where it begins if an offset was given. -/
theorem fields_of_body {request : Json} (h : body window c = .ok request) :
    ∃ p, page window c.limit c.offset = .ok p ∧ request.field? "size" = some (.ofUInt64 p.size) ∧
      request.field? "from" = c.offset.map fun _ => .ofUInt64 p.start := by
  obtain ⟨p, hp, h⟩ := exists_of_bind_ok h
  obtain rfl := Except.ok.inj h
  refine ⟨p, hp, ?_⟩
  cases c.offset <;> cases c.order.isOrdered <;> exact ⟨rfl, rfl⟩

/--
The page of a request lies in the window. It begins at the offset and is as long as the limit, or goes to
the end of the window if there is none; and just what lies outside is refused.
-/
structure PagesInside (window : UInt64) (c : Criteria) : Prop where
  refused_iff : (∃ e, body window c = .error e) ↔ Outside window c.limit c.offset
  inexpressible : ∀ e, body window c = .error e → e.kind = .inexpressible
  inside : ∀ request, body window c = .ok request →
    request.field? "from" = c.offset.map Json.ofUInt64 ∧
    ∃ size, request.field? "size" = some (.ofUInt64 size) ∧
      firstOf c.offset + size.toNat ≤ window.toNat ∧ (∀ n ∈ c.limit, size = n) ∧
      (c.limit = none → size.toNat = window.toNat - firstOf c.offset)

theorem exists_error_iff : (∃ e, body window c = .error e) ↔ Refused window c.limit c.offset := by
  simp only [body_eq_error_iff]
  cases hp : page window c.limit c.offset with
  | error e =>
    refine iff_of_true ⟨e, rfl⟩ ?_
    by_contra hopen
    rw [page_eq_ok_iff.mpr ⟨hopen, rfl⟩] at hp
    cases hp
  | ok p =>
    refine iff_of_false ?_ (page_eq_ok_iff.mp hp).1
    rintro ⟨_, h⟩
    cases h

/-- What is left of the window behind the offset is a 64-bit difference that does not wrap around. -/
theorem toNat_rest (h : ¬ Outside window none offset) : firstOf offset ≤ window.toNat ∧
    (window - offset.getD 0).toNat = window.toNat - firstOf offset := by
  have hle : firstOf offset ≤ window.toNat := by
    have hbefore : ¬ (0 < firstOf offset ∧ window.toNat ≤ firstOf offset) := fun hb => h (.inl hb)
    omega
  exact ⟨hle, UInt64.toNat_sub_of_le _ _ (UInt64.le_iff_toNat_le.mpr hle)⟩

/-- What is overlooked lies outside, but it is not refused. -/
theorem not_overlooked (h : PagesInside window c) : ¬ Overlooked window c.limit c.offset := by
  intro hover
  have hopen : ¬ Refused window c.limit c.offset := fun hr => (refused_iff.mp hr).2 hover
  obtain ⟨hwide, _, n, hn, hsum⟩ := hover
  have houtside : Outside window c.limit c.offset := .inr ⟨n, hn, by omega⟩
  exact hopen (exists_error_iff.mp (h.refused_iff.mpr houtside))

/-- Pages keep to the window, whatever it is and whatever is asked, except for the overlooked ones. -/
theorem pages_inside_iff (window : UInt64) (c : Criteria) :
    PagesInside window c ↔ ¬ Overlooked window c.limit c.offset := by
  constructor
  · exact not_overlooked
  · intro hover
    have hrefused : Refused window c.limit c.offset ↔ Outside window c.limit c.offset :=
      refused_iff.trans (and_iff_left hover)
    refine ⟨exists_error_iff.trans hrefused, fun e h => kind_of_page (body_eq_error_iff.mp h), ?_⟩
    intro request hrequest
    obtain ⟨p, hp, hsize, hfrom⟩ := fields_of_body hrequest
    obtain ⟨hopen, rfl⟩ := page_eq_ok_iff.mp hp
    have hinside : ¬ Outside window c.limit c.offset := mt hrefused.mpr hopen
    refine ⟨?_, _, hsize, ?_⟩
    · rw [hfrom]
      cases c.offset <;> rfl
    cases hlimit : c.limit with
    | none =>
      rw [hlimit] at hinside
      obtain ⟨hle, hrest⟩ := toNat_rest hinside
      refine ⟨?_, nofun, fun _ => hrest⟩
      rw [Option.getD_none, hrest]
      omega
    | some n =>
      rw [hlimit] at hinside
      have hend : ¬ window.toNat < firstOf c.offset + n.toNat :=
        fun hlt => hinside (.inr ⟨n, rfl, hlt⟩)
      refine ⟨Nat.le_of_not_lt hend, ?_, nofun⟩
      intro m hm
      exact Option.some.inj hm

/-- Five results from the last but one on, in the widest window: four of them are behind its end. -/
theorem pages_overlook_end :
    ¬ PagesInside 18446744073709551615
      { Criteria.all with limit := some 5, offset := some 18446744073709551614 } := by
  intro h
  refine not_overlooked h ⟨rfl, ?_, 5, rfl, ?_⟩
  · decide
  · decide

end QueryCriteria.Search
