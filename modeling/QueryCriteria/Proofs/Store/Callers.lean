import Mathlib.Data.List.Basic
import QueryCriteria.Store.Connection

/-!
Callers who come to one slot, step by step: what an event changes, and what it leaves true. One caller at
most has the slot alone, and while it connects the slot is empty.
-/
namespace QueryCriteria

variable {γ : Type}

/-- A caller's own step from phase to phase, and the slot after it; `held` says whether the slot is taken. -/
inductive CallerPhase.Advances (held : Bool) (slot : Slot γ) :
    CallerPhase γ → CallerStep γ → CallerPhase γ → Slot γ → Prop where
  | found {connection : γ} (free : held = false) (full : slot.current = some connection) :
    Advances held slot .arriving .read (.done (.ok connection)) slot
  | missed (free : held = false) (empty : slot.current = none) :
    Advances held slot .arriving .read .waiting slot
  | acquired (free : held = false) : Advances held slot .waiting .acquire .holding slot
  | shared {connection : γ} (full : slot.current = some connection) :
    Advances held slot .holding .check (.done (.ok connection)) slot
  | began (empty : slot.current = none) : Advances held slot .holding .check .connecting slot
  | made (connection : γ) : Advances held slot .connecting (.finish (.ok connection))
      (.done (.ok connection)) ⟨some connection, slot.connects + 1⟩
  | failed (e : StoreError) :
    Advances held slot .connecting (.finish (.error e)) (.done (.error e)) slot
  | dropped (phase : CallerPhase γ) : Advances held slot phase .drop .dropped slot

namespace CallerPhase.Advances

variable {held : Bool} {slot slot' : Slot γ} {p q : CallerPhase γ} {step : CallerStep γ}

/-- The slot is either had already, or taken while it is free. -/
theorem owner (h : Advances held slot p step q slot') (hq : q.owns = true) :
    p.owns = true ∨ held = false := by
  cases h with
  | acquired free => exact .inr free
  | began empty => exact .inl rfl
  | found | missed | shared | made | failed | dropped => cases hq

theorem connecting (h : Advances held slot p step q slot') (hq : q = .connecting) :
    p = .holding ∧ slot' = slot ∧ slot.current = none := by
  cases h with
  | began empty => exact ⟨rfl, rfl, empty⟩
  | found | missed | acquired | shared | made | failed | dropped => cases hq

theorem done {connection : γ} (h : Advances held slot p step q slot')
    (hq : q = .done (.ok connection)) : slot'.current = some connection := by
  cases h with
  | found free full => cases hq; exact full
  | shared full => cases hq; exact full
  | made => cases hq; rfl
  | missed | acquired | began | failed | dropped => cases hq

end CallerPhase.Advances

namespace Callers

variable {callers before after : Callers γ} {event : SlotEvent γ}

theorem owns_eq_false {i : Nat} {p : CallerPhase γ} (h : callers.held = false)
    (hp : callers.phases[i]? = some p) : p.owns = false := by
  rw [held, List.any_eq_false] at h
  exact Bool.eq_false_iff.mpr (h p (List.mem_of_getElem? hp))

theorem getElem?_place {i j : Nat} {p q : CallerPhase γ} (hp : callers.phases[i]? = some p) :
    (callers.place i q).phases[j]? = if i = j then some q else callers.phases[j]? := by
  rw [place, List.getElem?_set]
  split
  · rename_i hij
    subst hij
    rw [if_pos (List.getElem?_eq_some_iff.mp hp).1]
  · rfl

/-- What an event can be: a caller advances and the others stay as they are, or the slot is cleared. -/
inductive Changes (callers : Callers γ) : SlotEvent γ → Callers γ → Prop where
  | advance {i : Nat} {step : CallerStep γ} {p q : CallerPhase γ} {slot : Slot γ}
      (h : callers.phases[i]? = some p) (advances : p.Advances callers.held callers.slot step q slot) :
      Changes callers (.step i step) { callers.place i q with slot }
  | reset (free : callers.held = false) : Changes callers .reset { callers with slot := callers.slot.reset }

theorem changes_of_step? {i : Nat} {step : CallerStep γ} (h : callers.step? i step = some after) :
    callers.Changes (.step i step) after := by
  unfold step? at h
  split at h
  · rename_i hp
    split at h
    · cases h
    · rename_i hfree
      obtain rfl := Option.some.inj h
      have hfree := Bool.eq_false_iff.mpr hfree
      unfold CallerPhase.onFound
      split
      · rename_i connection hfull
        exact .advance hp (.found hfree hfull)
      · rename_i hempty
        exact .advance hp (.missed hfree hempty)
  · rename_i hp
    split at h
    · cases h
    · rename_i hfree
      obtain rfl := Option.some.inj h
      exact .advance hp (.acquired (Bool.eq_false_iff.mpr hfree))
  · rename_i hp
    obtain rfl := Option.some.inj h
    unfold CallerPhase.onFound
    split
    · rename_i connection hfull
      exact .advance hp (.shared hfull)
    · rename_i hempty
      exact .advance hp (.began hempty)
  · rename_i outcome hp
    obtain rfl := Option.some.inj h
    cases outcome with
    | ok connection => exact .advance hp (.made connection)
    | error e => exact .advance hp (.failed e)
  · rename_i hp
    obtain rfl := Option.some.inj h
    exact .advance hp (.dropped .arriving)
  · rename_i hp
    obtain rfl := Option.some.inj h
    exact .advance hp (.dropped .waiting)
  · rename_i hp
    obtain rfl := Option.some.inj h
    exact .advance hp (.dropped .holding)
  · rename_i hp
    obtain rfl := Option.some.inj h
    exact .advance hp (.dropped .connecting)
  · cases h

theorem changes_of_next? (h : callers.next? event = some after) : callers.Changes event after := by
  cases event with
  | step i step => exact changes_of_step? h
  | reset =>
    rw [next?] at h
    split at h
    · cases h
    · rename_i hfree
      obtain rfl := Option.some.inj h
      exact .reset (Bool.eq_false_iff.mpr hfree)

/-- At most one caller has the slot alone, and while it connects the slot is empty. -/
structure Exclusive (callers : Callers γ) : Prop where
  alone : ∀ {i j : Nat} {p q : CallerPhase γ}, callers.phases[i]? = some p → callers.phases[j]? = some q →
    p.owns = true → q.owns = true → i = j
  empty : ∀ {i : Nat}, callers.phases[i]? = some .connecting → callers.slot.current = none

theorem exclusive_arrive (slot : Slot γ) (n : Nat) : (arrive slot n).Exclusive := by
  have harriving {i : Nat} {p : CallerPhase γ} (h : (arrive slot n).phases[i]? = some p) :
      p = .arriving := List.eq_of_mem_replicate (List.mem_of_getElem? h)
  constructor
  · intro i j p q hp _ howns
    rw [harriving hp] at howns
    cases howns
  · intro i h
    cases harriving h

theorem Exclusive.changes (h : before.Exclusive) (hc : before.Changes event after) :
    after.Exclusive := by
  cases hc with
  | reset free =>
    exact ⟨h.alone, fun _ => rfl⟩
  | @advance i step p q slot hp hadvances =>
    -- An owner besides the one who advances would have had the slot before.
    have hothers {j : Nat} {r : CallerPhase γ} (hr : before.phases[j]? = some r)
        (howns : r.owns = true) (hq : q.owns = true) : i = j := by
      rcases hadvances.owner hq with hpowns | hfree
      · exact h.alone hp hr hpowns howns
      · rw [owns_eq_false hfree hr] at howns
        cases howns
    constructor
    · intro j k r s hr hs hrowns hsowns
      have hr := (getElem?_place hp).symm.trans hr
      have hs := (getElem?_place hp).symm.trans hs
      split at hr <;> split at hs
      · rename_i hj hk
        exact hj.symm.trans hk
      · rename_i hj _
        rw [← hj]
        cases hr
        exact hothers hs hsowns hrowns
      · rename_i _ hk
        rw [← hk]
        cases hs
        exact (hothers hr hrowns hsowns).symm
      · exact h.alone hr hs hrowns hsowns
    · intro j hafter
      have hplace := (getElem?_place hp).symm.trans hafter
      split at hplace
      · obtain ⟨_, hslot, hempty⟩ := hadvances.connecting (Option.some.inj hplace)
        exact hslot ▸ hempty
      · rename_i hne
        have hempty := h.empty hplace
        cases hadvances with
        | made connection => exact absurd (h.alone hp hplace rfl rfl) hne
        | found | missed | acquired | shared | began | failed | dropped => exact hempty

end Callers

end QueryCriteria
