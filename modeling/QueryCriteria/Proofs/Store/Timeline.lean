import QueryCriteria.Proofs.Store.Polls

/-!
Runs of the guard and polls. The executor polls a call at one moment after the other; it may do so as often
as it likes, as long as it is there when the call goes on, when its time is over, and when the token is
cancelled. Whatever the moments are, the first poll that decides gives what a run of the guard returns.
-/
namespace QueryCriteria

variable {ω α : Type}

/-- A moment at which a call is polled, and what is seen of the token then. -/
structure Moment where
  clock : Nat
  cancelled : Bool

/-- The poll of a task under a deadline. -/
def Moment.poll (deadline : Nat) (m : Moment) : Poll (Task ω (Except StoreError α) × ω) α where
  cancelled := m.cancelled
  call := fun state =>
    let state := state.1.advance m.clock state.2
    (state.1.result?, state)
  elapsed := deadline ≤ m.clock

theorem Moment.call_poll (deadline : Nat) (m : Moment) (task : Task ω (Except StoreError α)) (s : ω) :
    (m.poll deadline).call (task, s) = ((task.advance m.clock s).1.result?, task.advance m.clock s) := rfl

/--
Moments that can follow upon one at which the task was left. A cancellation at the very instant at which
the task goes on, or its time is over, comes after that.
-/
inductive Follows (deadline : Nat) (cancelAt : Option Nat) :
    Nat → Task ω α × ω → List Moment → Prop where
  | nil (clock : Nat) (state : Task ω α × ω) : Follows deadline cancelAt clock state []
  | cancelled {clock c : Nat} {state : Task ω α × ω} {later : List Moment}
      (hcancel : cancelAt = some c) (hdue : c < state.1.due deadline) :
    Follows deadline cancelAt clock state (⟨c, true⟩ :: later)
  | next {clock n : Nat} {state : Task ω α × ω} {later : List Moment} (hclock : clock ≤ n)
      (hdue : n ≤ state.1.due deadline) (hcancel : ∀ c ∈ cancelAt, n ≤ c)
      (hlater : Follows deadline cancelAt n (state.1.advance n state.2) later) :
    Follows deadline cancelAt clock state (⟨n, false⟩ :: later)

/-- The moments of a call that begins in a world. -/
def World.Schedules (w : World ω) (deadline : Nat) (task : Task ω α) (moments : List Moment) : Prop :=
  ∃ later, moments = ⟨w.clock, w.cancelled⟩ :: later ∧
    Follows deadline w.cancelAt w.clock (task.advance w.clock w.server) later

/-- What a call leaves to the others: its outcome and the server, without the clock and the token. -/
def World.leaves (ended : α × World ω) : α × ω :=
  (ended.1, ended.2.server)

namespace CallGuard

variable (guard : CallGuard) (backend : String) (operation : StoreOperation)

/-- The end of a run: what is seen of a call that has finished, or has been cut off. -/
def finish (ended : Option (Except StoreError α) × World ω) : Except StoreError α × World ω :=
  match guard.settle backend operation ⟨ended.2.cancelled, ended.1, true⟩ with
  | some outcome => (outcome, ended.2)
  | none => (.error (guard.timeoutError backend operation), ended.2)

variable {guard backend operation} {w : World ω}

theorem run_of_cancelled (hw : w.cancelled = true) (call : Call ω (Except StoreError α)) :
    guard.run backend operation call w = (.error (cancelledError backend operation), w) := by
  simp only [run, settle, hw, if_true]

theorem run_of_not_cancelled (hw : w.cancelled = false) (call : Call ω (Except StoreError α)) :
    guard.run backend operation call w =
      guard.finish backend operation (call (w.clock + guard.timeout.millisUp) w) := by
  simp only [run, settle, hw]
  rfl

theorem finish_some (hw : w.cancelled = false) (result : Except StoreError α) :
    guard.finish backend operation (some result, w) = (result.mapError (·.withBackend backend), w) := by
  simp only [finish, settle, hw]
  rfl

theorem finish_cancelled (hw : w.cancelled = true) (ready : Option (Except StoreError α)) :
    guard.finish backend operation (ready, w) = (.error (cancelledError backend operation), w) := by
  simp only [finish, settle, hw, if_true]

theorem finish_none (hw : w.cancelled = false) :
    guard.finish backend operation ((none : Option (Except StoreError α)), w) =
      (.error (guard.timeoutError backend operation), w) := by
  simp only [finish, settle, hw]
  rfl

variable {deadline : Nat} {task : Task ω (Except StoreError α)} {later moments : List Moment}
  {outcome : Except StoreError α} {state' : Task ω (Except StoreError α) × ω}

variable {cancelAt : Option Nat} {clock : Nat}

/-- A poll goes by how far the task comes, not by how far it had come before. -/
theorem polled_of_advance_eq {task₁ : Task ω (Except StoreError α)} {s s₁ : ω}
    (h : task.advance clock s = task₁.advance clock s₁) (later : List Moment) :
    guard.polled backend operation ((⟨clock, false⟩ :: later).map (Moment.poll deadline)) (task, s) =
      guard.polled backend operation ((⟨clock, false⟩ :: later).map (Moment.poll deadline)) (task₁, s₁) := by
  rw [List.map_cons, polled_cons, polled_cons, poll_of_not_cancelled rfl, poll_of_not_cancelled rfl,
    Moment.call_poll, Moment.call_poll, h]

/-- A poll of a task that rests is quiet, unless the time is over. -/
theorem polled_of_rests (hrests : task.Rests clock) (hdeadline : clock < deadline) (s : ω)
    (later : List Moment) :
    guard.polled backend operation ((⟨clock, false⟩ :: later).map (Moment.poll deadline)) (task, s) =
      guard.polled backend operation (later.map (Moment.poll deadline)) (task, s) := by
  have hcall : (Moment.poll deadline ⟨clock, false⟩).call (task, s) = (none, (task, s)) := by
    rw [Moment.call_poll, hrests.advance_eq, hrests.result?_eq]
  have helapsed : (Moment.poll deadline ⟨clock, false⟩ : Poll (Task ω (Except StoreError α) × ω) α).elapsed =
      false := decide_eq_false (Nat.not_le.mpr hdeadline)
  rw [List.map_cons, polled_cons, poll_of_quiet rfl hcall helapsed]

theorem polled_of_cancelled (c : Nat) (later : List Moment) (state : Task ω (Except StoreError α) × ω) :
    guard.polled backend operation ((⟨c, true⟩ :: later).map (Moment.poll deadline)) state =
      (some (.error (cancelledError backend operation)), state) :=
  Decides.polled_eq (.cancelled rfl) _

/-- The time of a task that still rests is over. -/
theorem polled_of_expired (hrests : task.Rests deadline) (s : ω) (later : List Moment) :
    guard.polled backend operation ((⟨deadline, false⟩ :: later).map (Moment.poll deadline)) (task, s) =
      (some (.error (guard.timeoutError backend operation)), (task, s)) := by
  have hcall : (Moment.poll deadline ⟨deadline, false⟩).call (task, s) = (none, (task, s)) := by
    rw [Moment.call_poll, hrests.advance_eq, hrests.result?_eq]
  exact Decides.polled_eq (.elapsed rfl hcall (decide_eq_true (Nat.le_refl _))) _

/-- One look at a call in time. Either this decides, or what comes of the call is up to the later looks. -/
theorem finish_of_look (hw : w.cancelled = false) (hcancel : ∀ c ∈ w.cancelAt, w.clock ≤ c)
    (hdeadline : w.clock ≤ deadline)
    (hsettled : guard.polled backend operation ((⟨w.clock, false⟩ :: later).map (Moment.poll deadline))
      (task, w.server) = (some outcome, state'))
    (hlater : (task.advance w.clock w.server).1.Rests w.clock →
      guard.polled backend operation (later.map (Moment.poll deadline)) (task.advance w.clock w.server) =
        (some outcome, state') →
      World.leaves (guard.finish backend operation ((task.advance w.clock w.server).1.toCall deadline
        { w with server := (task.advance w.clock w.server).2 })) = (outcome, state'.2)) :
    World.leaves (guard.finish backend operation (task.toCall deadline w)) = (outcome, state'.2) := by
  rw [Task.toCall_advance]
  let v : World ω := { w with server := (task.advance w.clock w.server).2 }
  rcases decides_or_quiet guard backend operation (Moment.poll deadline ⟨w.clock, false⟩)
    (task, w.server) with ⟨found, after, hdecides⟩ | ⟨after, hquiet, hcall, helapsed⟩
  · cases hsettled.symm.trans (hdecides.polled_eq _)
    cases hdecides with
    | cancelled htoken => cases htoken
    | finished _ hcall =>
      obtain ⟨hdone, rfl⟩ := Prod.mk.inj hcall
      rw [Task.eq_done_of_result? hdone]
      exact congrArg World.leaves (finish_some (w := v) hw _)
    | elapsed _ hcall helapsed =>
      obtain ⟨hpending, rfl⟩ := Prod.mk.inj hcall
      have hlast : deadline = w.clock := Nat.le_antisymm (of_decide_eq_true helapsed) hdeadline
      have hexpired := (Task.rests_advance hpending).toCall_expired (w := v) hlast hcancel
      exact congrArg World.leaves ((congrArg _ hexpired).trans (finish_none hw))
  · obtain ⟨hpending, rfl⟩ := Prod.mk.inj hcall
    rw [List.map_cons, polled_cons, poll_of_quiet hquiet hcall helapsed] at hsettled
    exact hlater (Task.rests_advance hpending) hsettled

/-- A call that is left while it waits comes to what the polls at the following moments decide. -/
theorem finish_of_follows {state : Task ω (Except StoreError α) × ω}
    (hfollows : Follows deadline cancelAt clock state moments) (hrests : state.1.Rests clock)
    (hsettled : guard.polled backend operation (moments.map (Moment.poll deadline)) state =
      (some outcome, state')) (hw : w.cancelled = false) (hcancelAt : w.cancelAt = cancelAt)
    (hclock : w.clock = clock) (hserver : w.server = state.2) :
    World.leaves (guard.finish backend operation (state.1.toCall deadline w)) = (outcome, state'.2) := by
  induction hfollows generalizing w with
  | nil => cases hsettled
  | @cancelled clock c state later hcancel hdue =>
    subst hclock
    cases hsettled.symm.trans (polled_of_cancelled c later state)
    rw [hrests.toCall_cancelled (hcancelAt.trans hcancel) hdue, finish_cancelled rfl, World.leaves, hserver]
  | @next clock n state later hnext hdue hcancel hlater ih =>
    subst hclock hcancelAt
    obtain ⟨task, s⟩ := state
    obtain rfl : w.server = s := hserver
    rw [← hrests.toCall_later hnext hdue hcancel]
    refine finish_of_look (w := { w with clock := n }) hw hcancel (Nat.le_trans hdue (Task.due_le _ _))
      hsettled fun hrests hsettled => ?_
    exact ih hrests hsettled hw rfl rfl rfl

/-- Whatever the moments are, what the polls decide is what a run of the guard returns. -/
theorem run_of_schedules (hw : w.Punctual)
    (hmoments : w.Schedules (w.clock + guard.timeout.millisUp) task moments)
    (hsettled : guard.polled backend operation
      (moments.map (Moment.poll (w.clock + guard.timeout.millisUp))) (task, w.server) =
        (some outcome, state')) :
    World.leaves (guard.run backend operation task.toCall w) = (outcome, state'.2) := by
  obtain ⟨later, rfl, hfollows⟩ := hmoments
  cases hcancelled : w.cancelled with
  | true =>
    rw [hcancelled] at hsettled
    cases hsettled.symm.trans (polled_of_cancelled w.clock later (task, w.server))
    rw [run_of_cancelled hcancelled]
    rfl
  | false =>
    rw [hcancelled] at hsettled
    rw [run_of_not_cancelled hcancelled]
    refine finish_of_look hcancelled (hw hcancelled) (Nat.le_add_right _ _) hsettled
      fun hrests hsettled => ?_
    exact finish_of_follows hfollows hrests hsettled hcancelled rfl rfl rfl

/-- The token is cancelled before the task goes on, or the time is over before it would. -/
theorem exists_moments_of_cut (guard : CallGuard) (backend : String) (operation : StoreOperation)
    (hrests : task.Rests clock) (hdeadline : clock ≤ deadline)
    (hcut : (∃ c, cancelAt = some c ∧ c < task.due deadline) ∨
      ((∀ c ∈ cancelAt, deadline ≤ c) ∧ task.Rests deadline)) (s : ω) :
    ∃ later outcome state', Follows deadline cancelAt clock (task.advance clock s) later ∧
      guard.polled backend operation ((⟨clock, false⟩ :: later).map (Moment.poll deadline)) (task, s) =
        (some outcome, state') := by
  rw [hrests.advance_eq]
  rcases Nat.lt_or_ge clock deadline with hbefore | hover
  · rcases hcut with ⟨c, hcancel, hdue⟩ | ⟨hcancel, hlate⟩
    · exact ⟨[⟨c, true⟩], _, _, .cancelled hcancel hdue,
        (polled_of_rests hrests hbefore s _).trans (polled_of_cancelled c [] (task, s))⟩
    · exact ⟨[⟨deadline, false⟩], _, _,
        .next hdeadline (Nat.le_of_eq hlate.due_eq.symm) hcancel (.nil _ _),
        (polled_of_rests hrests hbefore s _).trans (polled_of_expired hlate s [])⟩
  · obtain rfl : clock = deadline := Nat.le_antisymm hdeadline hover
    exact ⟨[], _, _, .nil _ _, polled_of_expired hrests s []⟩

/-- There are moments at which a call is polled up to an outcome. -/
theorem exists_moments (guard : CallGuard) (backend : String) (operation : StoreOperation)
    (task : Task ω (Except StoreError α)) (hdeadline : clock ≤ deadline)
    (hcancel : ∀ c ∈ cancelAt, clock ≤ c) (s : ω) :
    ∃ later outcome state', Follows deadline cancelAt clock (task.advance clock s) later ∧
      guard.polled backend operation ((⟨clock, false⟩ :: later).map (Moment.poll deadline)) (task, s) =
        (some outcome, state') := by
  induction task generalizing clock s with
  | done result => exact ⟨[], _, _, .nil _ _, Decides.polled_eq (.finished rfl rfl) _⟩
  | act change next ih =>
    obtain ⟨later, outcome, state', hfollows, hsettled⟩ := ih clock s hdeadline hcancel (change clock s)
    exact ⟨later, outcome, state', hfollows, (polled_of_advance_eq rfl _).trans hsettled⟩
  | wait instant next ih =>
    rcases Nat.lt_or_ge clock instant with hlt | hle
    · have hrests : (Task.wait instant next).Rests clock := .wait hlt
      by_cases hearly : ∃ c, cancelAt = some c ∧ c < min instant deadline
      · exact exists_moments_of_cut guard backend operation hrests hdeadline (.inl hearly) s
      · have hlater : ∀ c ∈ cancelAt, min instant deadline ≤ c := fun c hc =>
          Nat.le_of_not_lt fun hearlier => hearly ⟨c, hc, hearlier⟩
        rcases Nat.lt_or_ge deadline instant with hlate | htime
        · rw [Nat.min_eq_right (Nat.le_of_lt hlate)] at hlater
          exact exists_moments_of_cut guard backend operation hrests hdeadline
            (.inr ⟨hlater, .wait hlate⟩) s
        · -- The task goes on at its instant.
          rw [Nat.min_eq_left htime] at hlater
          obtain ⟨later, outcome, state', hfollows, hsettled⟩ := ih htime hlater s
          have hadvance : (Task.wait instant next).advance instant s = next.advance instant s :=
            if_pos (Nat.le_refl _)
          refine ⟨⟨instant, false⟩ :: later, outcome, state', ?_,
            (polled_of_rests hrests (Nat.lt_of_lt_of_le hlt htime) s _).trans
              ((polled_of_advance_eq hadvance _).trans hsettled)⟩
          rw [hrests.advance_eq]
          refine .next (Nat.le_of_lt hlt) (Nat.le_of_eq (Nat.min_eq_left htime).symm) hlater ?_
          rw [hadvance]
          exact hfollows
    · have hadvance : (Task.wait instant next).advance clock s = next.advance clock s := if_pos hle
      obtain ⟨later, outcome, state', hfollows, hsettled⟩ := ih hdeadline hcancel s
      rw [hadvance]
      exact ⟨later, outcome, state', hfollows, (polled_of_advance_eq hadvance _).trans hsettled⟩
  | hang =>
    by_cases hearly : ∃ c, cancelAt = some c ∧ c < deadline
    · exact exists_moments_of_cut guard backend operation .hang hdeadline (.inl hearly) s
    · have hlater : ∀ c ∈ cancelAt, deadline ≤ c := fun c hc =>
        Nat.le_of_not_lt fun hearlier => hearly ⟨c, hc, hearlier⟩
      exact exists_moments_of_cut guard backend operation .hang hdeadline (.inr ⟨hlater, .hang⟩) s

/-- Every guarded call of a task is polled up to an outcome, at some moments or others. -/
theorem exists_schedule (guard : CallGuard) (backend : String) (operation : StoreOperation)
    (task : Task ω (Except StoreError α)) (hw : w.Punctual) :
    ∃ moments outcome state', w.Schedules (w.clock + guard.timeout.millisUp) task moments ∧
      guard.polled backend operation (moments.map (Moment.poll (w.clock + guard.timeout.millisUp)))
        (task, w.server) = (some outcome, state') := by
  cases hcancelled : w.cancelled with
  | true =>
    exact ⟨[⟨w.clock, true⟩], _, _, ⟨[], by rw [hcancelled], .nil _ _⟩,
      polled_of_cancelled w.clock [] (task, w.server)⟩
  | false =>
    obtain ⟨later, outcome, state', hfollows, hsettled⟩ := exists_moments guard backend operation task
      (Nat.le_add_right w.clock guard.timeout.millisUp) (hw hcancelled) w.server
    exact ⟨⟨w.clock, false⟩ :: later, outcome, state', ⟨later, by rw [hcancelled], hfollows⟩, hsettled⟩

theorem finish_snd (ended : Option (Except StoreError α) × World ω) :
    (guard.finish backend operation ended).2 = ended.2 := by
  rw [finish]
  split <;> rfl

/-- A run of the guard leaves no cancellation overdue. -/
theorem run_punctual (task : Task ω (Except StoreError α)) (hw : w.Punctual) :
    (guard.run backend operation task.toCall w).2.Punctual := by
  cases hcancelled : w.cancelled with
  | true =>
    rw [run_of_cancelled hcancelled]
    exact hw
  | false =>
    rw [run_of_not_cancelled hcancelled, finish_snd]
    exact task.toCall_punctual hw

end CallGuard

end QueryCriteria
