import QueryCriteria.Proofs.Store.Callers

/-!
Callers who come to one slot, under every interleaving of their steps. Whoever connects has the slot
alone, so connections are made one at a time, and without resets no second one is begun.
-/
namespace QueryCriteria.Callers

variable {γ : Type} {callers before after start final : Callers γ} {event : SlotEvent γ}

/-- An event that takes place, with the callers before it and after it. -/
structure Transition (γ : Type) where
  before : Callers γ
  event : SlotEvent γ
  after : Callers γ

namespace Transition

variable {t : Transition γ} {before after : Callers γ} {event : SlotEvent γ}

/-- The connection that the event makes, if it is a connect that succeeds. -/
def made? (t : Transition γ) : Option γ :=
  match t.event with
  | .step _ (.finish (.ok connection)) => some connection
  | _ => none

def isReset (t : Transition γ) : Bool :=
  match t.event with
  | .reset => true
  | _ => false

/-- Whether the slot is empty before the event and full after it. -/
def fills (t : Transition γ) : Bool :=
  t.before.slot.current.isNone && t.after.slot.current.isSome

/-- Whether the event is a reset that finds a connection. -/
def removes (t : Transition γ) : Bool :=
  t.isReset && t.before.slot.current.isSome

/-- The caller begins to connect. -/
def Begins (t : Transition γ) (i : Nat) : Prop :=
  t.before.phases[i]? ≠ some .connecting ∧ t.after.phases[i]? = some .connecting

/-- The caller was connecting, and this fails, or the caller is dropped. -/
def GivesUp (t : Transition γ) (i : Nat) : Prop :=
  t.before.phases[i]? = some .connecting ∧
    ((∃ e, t.event = .step i (.finish (.error e))) ∨ t.event = .step i .drop)

/-- What an event does to the slot. -/
inductive OnSlot (t : Transition γ) : Prop where
  | kept (slot : t.after.slot = t.before.slot) (made : t.made? = none) (reset : t.isReset = false)
  | made (connection : γ) (empty : t.before.slot.current = none)
      (slot : t.after.slot = ⟨some connection, t.before.slot.connects + 1⟩)
      (made : t.made? = some connection) (reset : t.isReset = false)
  | cleared (slot : t.after.slot = t.before.slot.reset) (made : t.made? = none) (reset : t.isReset = true)

theorem onSlot (h : before.Changes event after) (hex : before.Exclusive) :
    OnSlot ⟨before, event, after⟩ := by
  cases h with
  | reset free => exact .cleared rfl rfl rfl
  | advance hp hadvances =>
    cases hadvances with
    | made connection => exact .made connection (hex.empty hp) rfl rfl rfl
    | found | missed | acquired | shared | began | failed | dropped => exact .kept rfl rfl rfl

/-- The counter grows when the slot is filled, and between two fillings a connection is removed. -/
theorem OnSlot.counts (h : t.OnSlot) :
    t.after.slot.connects = t.before.slot.connects + t.fills.toNat ∧
      t.after.slot.current.toList.length + t.removes.toNat =
        t.before.slot.current.toList.length + t.fills.toNat := by
  cases h with
  | kept slot made reset =>
    have hfills : t.fills = false := by
      rw [fills, slot]
      cases t.before.slot.current <;> rfl
    rw [removes, hfills, slot, reset]
    exact ⟨rfl, rfl⟩
  | made connection empty slot made reset =>
    rw [removes, fills, slot, empty, reset]
    exact ⟨rfl, rfl⟩
  | cleared slot made reset =>
    have hfills : t.fills = false := by
      rw [fills, slot]
      exact Bool.and_false _
    rw [removes, hfills, slot, reset, Slot.reset]
    refine ⟨rfl, ?_⟩
    cases t.before.slot.current <;> rfl

/-- Only an empty slot makes a caller connect. -/
theorem Begins.empty {i : Nat} (h : Begins ⟨before, event, after⟩ i)
    (hc : before.Changes event after) : before.slot.current = none := by
  obtain ⟨hbefore, hafter⟩ := h
  cases hc with
  | reset free => exact absurd hafter hbefore
  | advance hp hadvances =>
    have hafter := (getElem?_place hp).symm.trans hafter
    split at hafter
    · exact (hadvances.connecting (Option.some.inj hafter)).2.2
    · exact absurd hafter hbefore

/-- Who gives up connecting leaves the slot empty, and to the others. -/
theorem GivesUp.leaves {i : Nat} (h : GivesUp ⟨before, event, after⟩ i)
    (hc : before.Changes event after) (hex : before.Exclusive) :
    after.slot.current = none ∧ after.held = false := by
  obtain ⟨hconnecting, hevent⟩ := h
  have hempty := hex.empty hconnecting
  -- Any other owner would be a second one.
  have hleft {q : CallerPhase γ} (hq : q.owns = false) : (before.place i q).held = false := by
    rw [held, List.any_eq_false]
    intro r hr howns
    obtain ⟨j, hj⟩ := List.getElem?_of_mem hr
    rw [getElem?_place hconnecting] at hj
    split at hj
    · cases hj
      rw [hq] at howns
      cases howns
    · rename_i hne
      exact hne (hex.alone hconnecting hj rfl howns)
  rcases hevent with ⟨e, rfl⟩ | rfl
  · cases hc with
    | advance hp hadvances =>
      cases hadvances with
      | failed e => exact ⟨hempty, hleft rfl⟩
  · cases hc with
    | advance hp hadvances =>
      cases hadvances with
      | dropped phase => exact ⟨hempty, hleft rfl⟩

end Transition

/-- The runs that begin with some callers: all that took place, in its order, and where it led. -/
inductive Run (start : Callers γ) : List (Transition γ) → Callers γ → Prop where
  | start : Run start [] start
  | next {history : List (Transition γ)} {before after : Callers γ} {event : SlotEvent γ}
      (run : Run start history before) (h : before.next? event = some after) :
      Run start (history ++ [⟨before, event, after⟩]) after

namespace Run

variable {history : List (Transition γ)}

theorem exclusive (hstart : start.Exclusive) (run : Run start history final) : final.Exclusive := by
  induction run with
  | start => exact hstart
  | next _ h ih => exact ih.changes (changes_of_next? h)

/-- A run up to any of its transitions is a run. -/
theorem split {early late : List (Transition γ)} {t : Transition γ}
    (run : Run start (early ++ t :: late) final) :
    Run start early t.before ∧ t.before.next? t.event = some t.after := by
  generalize hall : early ++ t :: late = history at run
  induction run generalizing late with
  | start => simp at hall
  | @next history before after event run h ih =>
    rcases List.eq_nil_or_concat late with rfl | ⟨front, last, rfl⟩
    · obtain ⟨rfl, hlast⟩ := List.append_inj' hall rfl
      obtain rfl := List.singleton_inj.mp hlast
      exact ⟨run, h⟩
    · have hsplit : (early ++ t :: front) ++ [last] = history ++ [⟨before, event, after⟩] := by
        rw [← hall]
        simp
      exact ih (List.append_inj' hsplit rfl).1

/-- The counter tells how often the slot was filled, and so does the number of removals. -/
theorem counts (hstart : start.Exclusive) (hempty : start.slot = .empty)
    (run : Run start history final) :
    final.slot.connects = history.countP Transition.fills ∧
      final.slot.current.toList.length + history.countP Transition.removes =
        history.countP Transition.fills := by
  induction run with
  | start =>
    rw [hempty]
    exact ⟨rfl, rfl⟩
  | @next history before after event run h ih =>
    obtain ⟨hconnects, hremoved⟩ := ih
    obtain ⟨hgrows, hbalance⟩ :=
      (Transition.onSlot (changes_of_next? h) (run.exclusive hstart)).counts
    dsimp only at hgrows hbalance
    have hcount (f : Transition γ → Bool) (t : Transition γ) :
        (history ++ [t]).countP f = history.countP f + (f t).toNat := by
      rw [List.countP_append, List.countP_singleton]
      cases f t <;> rfl
    rw [hcount, hcount]
    omega

/-- Without resets the slot keeps the connection that was made, and callers return no other. -/
structure Settled (history : List (Transition γ)) (callers : Callers γ) : Prop where
  made : history.filterMap Transition.made? = callers.slot.current.toList
  returned : ∀ {i : Nat} {connection : γ}, callers.phases[i]? = some (.done (.ok connection)) →
    callers.slot.current = some connection

theorem Settled.next (h : Settled history before) (hex : before.Exclusive)
    (hc : before.Changes event after) (hevent : Transition.isReset ⟨before, event, after⟩ = false) :
    Settled (history ++ [⟨before, event, after⟩]) after := by
  constructor
  · rw [List.filterMap_append, h.made]
    cases Transition.onSlot hc hex with
    | kept slot made reset =>
      dsimp only at slot
      rw [slot, List.filterMap_cons_none made, List.filterMap_nil, List.append_nil]
    | made connection empty slot made reset =>
      dsimp only at slot empty
      rw [slot, empty, List.filterMap_cons_some made]
      rfl
    | cleared slot made reset =>
      rw [hevent] at reset
      cases reset
  · intro j connection hj
    cases hc with
    | reset free => cases hevent
    | advance hp hadvances =>
      have hplace := (getElem?_place hp).symm.trans hj
      split at hplace
      · exact hadvances.done (Option.some.inj hplace)
      · have hreturned := h.returned hplace
        cases hadvances with
        | made connection =>
          rw [hex.empty hp] at hreturned
          cases hreturned
        | found | missed | acquired | shared | began | failed | dropped => exact hreturned

theorem Settled.any_made (h : Settled history callers) :
    history.any (·.made?.isSome) = callers.slot.current.isSome := by
  have hmade := h.made
  cases hcurrent : callers.slot.current with
  | none =>
    rw [hcurrent] at hmade
    apply List.any_eq_false.mpr
    intro t ht
    rw [List.filterMap_eq_nil_iff.mp hmade t ht]
    exact Bool.false_ne_true
  | some connection =>
    rw [hcurrent] at hmade
    have hmem : connection ∈ history.filterMap Transition.made? := by
      rw [hmade]
      exact List.mem_singleton_self connection
    obtain ⟨t, ht, hsome⟩ := List.mem_filterMap.mp hmem
    apply List.any_eq_true.mpr
    exact ⟨t, ht, by rw [hsome]; rfl⟩

theorem settled {n : Nat} (run : Run (arrive .empty n) history final)
    (hno : ∀ t ∈ history, t.isReset = false) : Settled history final := by
  induction run with
  | start =>
    refine ⟨rfl, fun h => ?_⟩
    cases List.eq_of_mem_replicate (List.mem_of_getElem? h)
  | next run h ih =>
    obtain ⟨hbefore, hlast⟩ := List.forall_mem_append.mp hno
    exact (ih hbefore).next (run.exclusive (exclusive_arrive .empty n)) (changes_of_next? h)
      (hlast _ List.mem_cons_self)

/-- What is true of a run whatever resets it holds. -/
structure Sound (history : List (Transition γ)) (final : Callers γ) : Prop where
  /-- No two callers connect at once. -/
  alone : ∀ i j : Nat, final.phases[i]? = some .connecting → final.phases[j]? = some .connecting → i = j
  /-- A connect that fails or is given up leaves the slot empty and free. -/
  leaves : ∀ t ∈ history, ∀ i, t.GivesUp i → t.after.slot.current = none ∧ t.after.held = false
  connects : final.slot.connects = history.countP Transition.fills
  bound : final.slot.connects ≤ history.countP Transition.removes + 1

/-- What is true besides of a run without resets: there is one connection, and it is for all. -/
structure Once (history : List (Transition γ)) (final : Callers γ) : Prop where
  atMostOne : (history.filterMap Transition.made?).length ≤ 1
  /-- Once a connection is made, no caller begins to connect. -/
  noMore : ∀ early t late, history = early ++ t :: late → t.made?.isSome = true →
    ∀ u ∈ late, ∀ i, ¬ u.Begins i
  returned : ∀ (i : Nat) (connection : γ), final.phases[i]? = some (.done (.ok connection)) →
    history.filterMap Transition.made? = [connection]
  connects : final.slot.connects = if history.any (·.made?.isSome) then 1 else 0

theorem sound {n : Nat} (run : Run (arrive .empty n) history final) : Sound history final := by
  have hstart : (arrive (.empty : Slot γ) n).Exclusive := exclusive_arrive .empty n
  obtain ⟨hconnects, hremoved⟩ := run.counts hstart rfl
  refine ⟨?_, ?_, hconnects, ?_⟩
  · intro i j hi hj
    exact (run.exclusive hstart).alone hi hj rfl rfl
  · intro t ht i hgives
    obtain ⟨early, late, rfl⟩ := List.append_of_mem ht
    obtain ⟨hearly, hnext⟩ := run.split
    exact hgives.leaves (changes_of_next? hnext) (hearly.exclusive hstart)
  · have hone : final.slot.current.toList.length ≤ 1 := by
      cases final.slot.current <;> simp
    omega

theorem once {n : Nat} (run : Run (arrive .empty n) history final)
    (hno : ∀ t ∈ history, t.isReset = false) : Once history final := by
  have hsettled := run.settled hno
  obtain ⟨hconnects, hremoved⟩ := run.counts (exclusive_arrive .empty n) rfl
  refine ⟨?_, ?_, ?_, ?_⟩
  · rw [hsettled.made]
    cases final.slot.current <;> simp
  · rintro early t late rfl hmade u hu i hbegins
    obtain ⟨front, back, rfl⟩ := List.append_of_mem hu
    have hsplit : early ++ t :: (front ++ u :: back) = (early ++ t :: front) ++ u :: back := by simp
    rw [hsplit] at run hno
    obtain ⟨hfront, hnext⟩ := run.split
    -- What was made before is still there, so the slot is not empty when the caller looks.
    have hfull := (hfront.settled fun t ht => hno t (List.mem_append_left _ ht)).made
    rw [hbegins.empty (changes_of_next? hnext)] at hfull
    have hnone := List.filterMap_eq_nil_iff.mp hfull t (by simp)
    rw [hnone] at hmade
    cases hmade
  · intro i connection hi
    rw [hsettled.made, hsettled.returned hi]
    rfl
  · have hremovals : history.countP Transition.removes = 0 := by
      refine List.countP_eq_zero.mpr fun t ht hremoves => ?_
      rw [Transition.removes, hno t ht] at hremoves
      cases hremoves
    rw [hsettled.any_made, hconnects, ← hremoved, hremovals]
    cases final.slot.current <;> rfl

theorem trans {middle : Callers γ} {late : List (Transition γ)} (run : Run start history middle)
    (rest : Run middle late final) : Run start (history ++ late) final := by
  induction rest with
  | start =>
    rw [List.append_nil]
    exact run
  | next _ h ih =>
    rw [← List.append_assoc]
    exact ih.next h

end Run

/-- What takes place when events follow one another, if all of them are possible, and where it leads. -/
def play? (callers : Callers γ) : List (SlotEvent γ) → Option (List (Transition γ) × Callers γ)
  | [] => some ([], callers)
  | event :: rest => do
    let after ← callers.next? event
    let (history, final) ← after.play? rest
    return (⟨callers, event, after⟩ :: history, final)

theorem run_of_play? {events : List (SlotEvent γ)} {history : List (Transition γ)}
    (h : start.play? events = some (history, final)) : Run start history final := by
  induction events generalizing start history with
  | nil =>
    obtain ⟨rfl, rfl⟩ := Prod.mk.inj (Option.some.inj h)
    exact .start
  | cons event rest ih =>
    rw [play?] at h
    obtain ⟨after, hafter, h⟩ := Option.bind_eq_some_iff.mp h
    obtain ⟨⟨late, last⟩, hrest, h⟩ := Option.bind_eq_some_iff.mp h
    obtain ⟨rfl, rfl⟩ := Prod.mk.inj (Option.some.inj h)
    exact (Run.next .start hafter).trans (ih hrest)

/-- Whether some run without resets leads from callers to callers. -/
def Leads (start final : Callers γ) : Prop :=
  ∃ history, Run start history final ∧ ∀ t ∈ history, t.isReset = false

namespace Leads

theorem refl (callers : Callers γ) : Leads callers callers :=
  ⟨[], .start, fun _ ht => absurd ht List.not_mem_nil⟩

theorem trans {middle : Callers γ} (h : Leads start middle) (h' : Leads middle final) :
    Leads start final := by
  obtain ⟨early, hearly, hno⟩ := h
  obtain ⟨late, hlate, hno'⟩ := h'
  exact ⟨early ++ late, hearly.trans hlate, List.forall_mem_append.mpr ⟨hno, hno'⟩⟩

theorem step (callers : Callers γ) (i : Nat) (s : CallerStep γ) : Leads callers (callers.step i s) := by
  rw [Callers.step]
  cases h : callers.step? i s with
  | none => exact refl callers
  | some after =>
    have hnext : callers.next? (.step i s) = some after := h
    exact ⟨_, .next .start hnext, List.forall_mem_singleton.mpr rfl⟩

theorem foldl {α : Type} {f : Callers γ → α → Callers γ} (hf : ∀ c a, Leads c (f c a)) (as : List α)
    (callers : Callers γ) : Leads callers (as.foldl f callers) := by
  induction as generalizing callers with
  | nil => exact refl callers
  | cons a rest ih => exact (hf callers a).trans (ih (f callers a))

/-- Callers who take the slot in the order in which they came are one of the cases. -/
theorem inOrder (slot : Slot γ) (outcomes : List (Except StoreError γ)) :
    Leads (arrive slot outcomes.length) (inOrder slot outcomes) := by
  have harrived := foldl (fun c i => step c i .read) (List.range outcomes.length)
    (arrive slot outcomes.length)
  refine harrived.trans (foldl ?_ outcomes.zipIdx _)
  intro c entry
  exact ((step c entry.2 .acquire).trans (step _ entry.2 .check)).trans (step _ entry.2 _)

end Leads

/-- A caller who comes alone finds the connection, or makes it and counts it. -/
theorem inOrder_singleton (slot : Slot γ) (outcome : Except StoreError γ) :
    slot.getOrConnect (m := Id) (pure outcome) =
      pure ((inOrder slot [outcome]).outcomes.headD outcome, (inOrder slot [outcome]).slot) := by
  obtain ⟨current, connects⟩ := slot
  cases current with
  | some connection => rfl
  | none => cases outcome <;> rfl

theorem connects_inOrder_le_one (outcomes : List (Except StoreError γ)) :
    (inOrder .empty outcomes).slot.connects ≤ 1 := by
  obtain ⟨history, run, hno⟩ := Leads.inOrder .empty outcomes
  rw [(run.once hno).connects]
  split
  · exact Nat.le_refl 1
  · exact Nat.zero_le 1

/--
Whatever the interleaving of callers who come to an empty slot, with failures, dropped callers and
resets: the counter is the number of times the slot was filled, at most one more than the connections
removed, and no two callers connect at once. Without resets one connection is made at most, for all.
-/
theorem connects_exactly_once {n : Nat} {history : List (Transition γ)}
    (run : Run (arrive .empty n) history final) :
    Run.Sound history final ∧ ((∀ t ∈ history, t.isReset = false) → Run.Once history final) :=
  ⟨run.sound, run.once⟩

/-- Three find the slot empty: the first is dropped while it connects, the second fails to. -/
def rush : List (SlotEvent Nat) :=
  [.step 0 .read, .step 1 .read, .step 2 .read, .step 0 .acquire, .step 0 .check, .step 0 .drop,
    .step 1 .acquire, .step 1 .check, .step 1 (.finish (.error (.connectionFailed "refused"))),
    .step 2 .acquire, .step 2 .check, .step 2 (.finish (.ok 7)), .step 3 .read]

/-- The connection is dropped, and a fifth caller makes another. -/
def rushAgain : List (SlotEvent Nat) :=
  rush ++ [.reset, .step 4 .read, .step 4 .acquire, .step 4 .check, .step 4 (.finish (.ok 8))]

theorem connects_exactly_once_rush :
    (∃ history final, Run (arrive (.empty : Slot Nat) 4) history final ∧
      (∀ t ∈ history, t.isReset = false) ∧ Run.Once history final ∧ final.slot = ⟨some 7, 1⟩) ∧
    ∃ history final, Run (arrive (.empty : Slot Nat) 5) history final ∧ Run.Sound history final ∧
      final.slot = ⟨some 8, 2⟩ ∧ history.countP Transition.removes = 1 := by
  have hrush : ∃ history final, (arrive (.empty : Slot Nat) 4).play? rush = some (history, final) ∧
      history.all (fun t => !t.isReset) = true ∧ final.slot = ⟨some 7, 1⟩ := ⟨_, _, rfl, rfl, rfl⟩
  have hagain : ∃ history final,
      (arrive (.empty : Slot Nat) 5).play? rushAgain = some (history, final) ∧
      final.slot = ⟨some 8, 2⟩ ∧ history.countP Transition.removes = 1 := ⟨_, _, rfl, rfl, rfl⟩
  obtain ⟨history, final, hplay, hall, hslot⟩ := hrush
  obtain ⟨history', final', hplay', hslot', hremoves⟩ := hagain
  have hno : ∀ t ∈ history, t.isReset = false := by simpa using hall
  exact ⟨⟨history, final, run_of_play? hplay, hno,
      (connects_exactly_once (run_of_play? hplay)).2 hno, hslot⟩,
    ⟨history', final', run_of_play? hplay', (connects_exactly_once (run_of_play? hplay')).1, hslot',
      hremoves⟩⟩

end QueryCriteria.Callers
