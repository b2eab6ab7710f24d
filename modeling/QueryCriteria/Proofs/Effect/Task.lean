import QueryCriteria.Effect.Call

/-!
Calls as their executor sees them. A task goes on until it is done or waits for an instant, and then it is
left alone until someone looks at it again. At which instants it is looked at does not matter, as long as
none is missed at which it has to go on.
-/
namespace QueryCriteria

variable {ω α β : Type}

/-- A call in its single steps. -/
inductive Task (ω α : Type) where
  | done (a : α)
  /-- A step, which sees the clock and the server, and changes the server. -/
  | act (change : Nat → ω → ω) (next : Nat → ω → Task ω α)
  | wait (instant : Nat) (next : Task ω α)
  /-- Never finishes. -/
  | hang

/-- A cancellation that has not taken place yet is not overdue. -/
def World.Punctual (w : World ω) : Prop :=
  w.cancelled = false → ∀ c ∈ w.cancelAt, w.clock ≤ c

namespace Call

variable {deadline : Nat} {w w' : World ω} {call : Call ω α} {next : α → Call ω β}

theorem bind_congr_at {v : World ω} (h : call deadline w = call deadline v) :
    (call >>= next) deadline w = (call >>= next) deadline v := by
  simp only [Bind.bind, ReaderT.bind, OptionT.bind, OptionT.mk, StateT.bind]
  rw [h]

theorem bind_of_some {a : α} (h : call deadline w = (some a, w')) :
    (call >>= next) deadline w = next a deadline w' := by
  simp only [Bind.bind, ReaderT.bind, OptionT.bind, OptionT.mk, StateT.bind]
  rw [h]

theorem bind_of_none (h : call deadline w = (none, w')) :
    (call >>= next) deadline w = (none, w') := by
  simp only [Bind.bind, ReaderT.bind, OptionT.bind, OptionT.mk, StateT.bind]
  rw [h]
  rfl

theorem bind_punctual (hcall : (call deadline w).2.Punctual)
    (hnext : ∀ a w', w'.Punctual → (next a deadline w').2.Punctual) :
    ((call >>= next) deadline w).2.Punctual := by
  rcases hresult : call deadline w with ⟨_ | a, w'⟩
  · rw [hresult] at hcall
    rw [bind_of_none hresult]
    exact hcall
  · rw [hresult] at hcall
    rw [bind_of_some hresult]
    exact hnext a w' hcall

end Call

namespace Task

/-- Waits for an instant, unless it is over. -/
def reach (instant : Nat) : Call ω Unit := fun deadline => OptionT.mk fun w =>
  if instant ≤ w.clock then (some (), w) else Call.waitUntil (some instant) deadline w

def toCall : Task ω α → Call ω α
  | .done a => pure a
  | .act change next => fun deadline => OptionT.mk fun w =>
    (next w.clock w.server).toCall deadline { w with server := change w.clock w.server }
  | .wait instant next => do
    reach instant
    next.toCall
  | .hang => Call.hang

/-- A step of the server. -/
def ofStep (step : StateM ω α) : Task ω α :=
  .act (fun _ s => (step s).2) fun _ s => .done (step s).1

def sleep (d : Duration) : Task ω Unit :=
  .act (fun _ s => s) fun clock _ => .wait (clock + d.millisUp) (.done ())

def bind : Task ω α → (α → Task ω β) → Task ω β
  | .done a, f => f a
  | .act change next, f => .act change fun clock s => (next clock s).bind f
  | .wait instant next, f => .wait instant (next.bind f)
  | .hang, _ => .hang

/-- What the task has come to, once it is done. -/
def result? : Task ω α → Option α
  | .done a => some a
  | _ => none

/-- Goes on as far as it is possible at an instant. -/
def advance (clock : Nat) : Task ω α → ω → Task ω α × ω
  | .done a, s => (.done a, s)
  | .act change next, s => (next clock s).advance clock (change clock s)
  | .wait instant next, s =>
    if instant ≤ clock then next.advance clock s else (.wait instant next, s)
  | .hang, s => (.hang, s)

/-- The instant at which the task has to be looked at again: it goes on, or its time is over. -/
def due (deadline : Nat) : Task ω α → Nat
  | .wait instant _ => min instant deadline
  | _ => deadline

/-- The task has nothing to do at an instant, and is not done. -/
inductive Rests (clock : Nat) : Task ω α → Prop where
  | wait {instant : Nat} {next : Task ω α} (h : clock < instant) : Rests clock (.wait instant next)
  | hang : Rests clock .hang

theorem reach_of_le {instant deadline : Nat} {w : World ω} (h : instant ≤ w.clock) :
    reach instant deadline w = (some (), w) :=
  if_pos h

theorem reach_of_lt {instant deadline : Nat} {w : World ω} (h : w.clock < instant) :
    reach instant deadline w = Call.waitUntil (some instant) deadline w :=
  if_neg (Nat.not_le.mpr h)

theorem toCall_ofStep (step : StateM ω α) : (ofStep step).toCall = Call.onServer step := rfl

/-- Waiting for a number of milliseconds. That the number is a variable keeps the kernel from computing it. -/
private theorem toCall_pause (n : Nat) :
    (act (fun _ s => s) fun clock _ => .wait (clock + n) (.done ()) : Task ω Unit).toCall =
      (do
        let w ← (get : StateM (World ω) (World ω))
        if n = 0 then return ()
        Call.waitUntil (some (w.clock + n)) : Call ω Unit) := by
  funext deadline w
  obtain ⟨server, clock, cancelled, cancelAt, crashed⟩ := w
  change (reach (clock + n) >>= pure : Call ω Unit) deadline ⟨server, clock, cancelled, cancelAt, crashed⟩ =
    (if n = 0 then pure () else Call.waitUntil (some (clock + n)) : Call ω Unit) deadline
      ⟨server, clock, cancelled, cancelAt, crashed⟩
  rw [bind_pure]
  by_cases h : n = 0
  · rw [if_pos h]
    refine if_pos ?_
    change clock + n ≤ clock
    omega
  · rw [if_neg h]
    refine if_neg ?_
    change ¬ clock + n ≤ clock
    omega

theorem toCall_sleep (d : Duration) : (sleep d : Task ω Unit).toCall = Call.sleep d :=
  toCall_pause d.millisUp

theorem toCall_bind (task : Task ω α) (f : α → Task ω β) :
    (task.bind f).toCall = task.toCall >>= fun a => (f a).toCall := by
  induction task with
  | done a => rfl
  | act change next ih =>
    funext deadline w
    exact congrFun (congrFun (ih w.clock w.server) deadline) _
  | wait instant next ih => simp only [bind, toCall, bind_assoc, ih]
  | hang =>
    simp only [bind, toCall, Call.hang, bind_assoc]
    rfl

theorem eq_done_of_result? {task : Task ω α} {a : α} (h : task.result? = some a) : task = .done a := by
  cases task with
  | done b =>
    obtain rfl := Option.some.inj h
    rfl
  | act change next => cases h
  | wait instant next => cases h
  | hang => cases h

/-- A task that has gone on as far as possible is done, or it rests. -/
theorem rests_advance {clock : Nat} {task : Task ω α} {s : ω}
    (h : (task.advance clock s).1.result? = none) : (task.advance clock s).1.Rests clock := by
  induction task generalizing s with
  | done a => cases h
  | act change next ih => exact ih clock s h
  | wait instant next ih =>
    rw [advance] at h ⊢
    split
    · rename_i hle
      rw [if_pos hle] at h
      exact ih h
    · rename_i hle
      exact .wait (Nat.lt_of_not_le hle)
  | hang => exact .hang

theorem Rests.result?_eq {clock : Nat} {task : Task ω α} (h : task.Rests clock) : task.result? = none := by
  cases h with
  | wait hlt => rfl
  | hang => rfl

theorem Rests.advance_eq {clock : Nat} {task : Task ω α} (h : task.Rests clock) (s : ω) :
    task.advance clock s = (task, s) := by
  cases h with
  | wait hlt => exact if_neg (Nat.not_le.mpr hlt)
  | hang => rfl

theorem Rests.due_eq {deadline : Nat} {task : Task ω α} (h : task.Rests deadline) :
    task.due deadline = deadline := by
  cases h with
  | wait hlt => exact Nat.min_eq_right (Nat.le_of_lt hlt)
  | hang => rfl

section

variable {deadline : Nat} {w : World ω}

/-- The last instant of a wait: what is waited for, or the end of the time. -/
def lastInstant (deadline : Nat) : Option Nat → Nat
  | some t => min t deadline
  | none => deadline

theorem waitUntil_eq (instant : Option Nat) :
    Call.waitUntil instant deadline w =
      match w.cancelAt.filter (· < lastInstant deadline instant) with
      | some c => (none, { w with clock := max w.clock c, cancelled := true })
      | none => (if instant.any (· ≤ deadline) then some () else none,
          { w with clock := lastInstant deadline instant }) := by
  cases instant <;> rfl

theorem waitUntil_of_cancelAt {instant : Option Nat} {c : Nat} (hc : w.cancelAt = some c)
    (hlast : c < lastInstant deadline instant) :
    Call.waitUntil instant deadline w = (none, { w with clock := max w.clock c, cancelled := true }) := by
  have hfilter : w.cancelAt.filter (· < lastInstant deadline instant) = some c := by
    rw [hc, Option.filter_some, if_pos (decide_eq_true hlast)]
  rw [waitUntil_eq, hfilter]

theorem waitUntil_of_le {instant : Option Nat}
    (hcancel : ∀ c ∈ w.cancelAt, lastInstant deadline instant ≤ c) :
    Call.waitUntil instant deadline w = (if instant.any (· ≤ deadline) then some () else none,
      { w with clock := lastInstant deadline instant }) := by
  have hfilter : w.cancelAt.filter (· < lastInstant deadline instant) = none := by
    rw [Option.filter_eq_none_iff]
    intro c hc hlt
    exact absurd (hcancel c hc) (Nat.not_le.mpr (of_decide_eq_true hlt))
  rw [waitUntil_eq, hfilter]

/-- A wait ends where it ends, wherever it began. -/
theorem waitUntil_later (instant : Option Nat) {n : Nat} (hn : w.clock ≤ n)
    (hcancel : ∀ c ∈ w.cancelAt, n ≤ c) :
    Call.waitUntil instant deadline { w with clock := n } = Call.waitUntil instant deadline w := by
  rw [waitUntil_eq, waitUntil_eq]
  cases hfilter : w.cancelAt.filter (· < lastInstant deadline instant) with
  | none => rfl
  | some c =>
    have hc : n ≤ c := hcancel c (Option.filter_eq_some_iff.mp hfilter).1
    have hmax : max n c = max w.clock c := by omega
    dsimp only
    rw [hmax]

theorem waitUntil_punctual (instant : Option Nat) (w : World ω) :
    (Call.waitUntil instant deadline w).2.Punctual := by
  rw [waitUntil_eq]
  cases hfilter : w.cancelAt.filter (· < lastInstant deadline instant) with
  | some c =>
    intro hcancelled
    cases hcancelled
  | none =>
    intro _ c hc
    rw [Option.filter_eq_none_iff] at hfilter
    exact Nat.le_of_not_lt fun hlt => hfilter c hc (decide_eq_true hlt)

variable {task : Task ω α}

theorem due_le (deadline : Nat) (task : Task ω α) : task.due deadline ≤ deadline := by
  cases task with
  | wait instant next => exact Nat.min_le_right _ _
  | done a => exact Nat.le_refl _
  | act change next => exact Nat.le_refl _
  | hang => exact Nat.le_refl _

theorem toCall_punctual (task : Task ω α) {w : World ω} (hw : w.Punctual) :
    (task.toCall deadline w).2.Punctual := by
  induction task generalizing w with
  | done a => exact hw
  | act change next ih => exact ih w.clock w.server hw
  | wait instant next ih =>
    have hreach : ((reach instant : Call ω Unit) deadline w).2.Punctual := by
      rcases Nat.lt_or_ge w.clock instant with h | h
      · rw [reach_of_lt h]
        exact waitUntil_punctual _ w
      · rw [reach_of_le h]
        exact hw
    exact Call.bind_punctual hreach fun _ _ hw' => ih hw'
  | hang => exact Call.bind_punctual (waitUntil_punctual none w) fun _ _ hw' => hw'

/-- What is done at an instant is done whoever looks. -/
theorem toCall_advance (task : Task ω α) (w : World ω) :
    task.toCall deadline w = (task.advance w.clock w.server).1.toCall deadline
      { w with server := (task.advance w.clock w.server).2 } := by
  induction task generalizing w with
  | done a => rfl
  | act change next ih => exact ih w.clock w.server { w with server := change w.clock w.server }
  | wait instant next ih =>
    rw [advance]
    split
    · rename_i h
      exact (Call.bind_of_some (reach_of_le h)).trans (ih w)
    · rfl
  | hang => rfl

/-- A cancellation before the task goes on is the end of it. -/
theorem Rests.toCall_cancelled (h : task.Rests w.clock) {c : Nat} (hc : w.cancelAt = some c)
    (hdue : c < task.due deadline) :
    task.toCall deadline w = (none, { w with clock := max w.clock c, cancelled := true }) := by
  cases h with
  | wait hlt => exact Call.bind_of_none ((reach_of_lt hlt).trans (waitUntil_of_cancelAt hc hdue))
  | hang => exact Call.bind_of_none (waitUntil_of_cancelAt hc hdue)

/-- So is the end of its time. -/
theorem Rests.toCall_expired (h : task.Rests w.clock) (hclock : deadline = w.clock)
    (hcancel : ∀ c ∈ w.cancelAt, w.clock ≤ c) : task.toCall deadline w = (none, w) := by
  subst hclock
  cases h with
  | @wait instant next hlt =>
    refine Call.bind_of_none ((reach_of_lt hlt).trans ?_)
    have hlast : lastInstant w.clock (some instant) = w.clock := Nat.min_eq_right (Nat.le_of_lt hlt)
    have hlate : (some instant).any (· ≤ w.clock) = false := decide_eq_false (Nat.not_le.mpr hlt)
    rw [waitUntil_of_le (hlast.symm ▸ hcancel), hlast, hlate]
    rfl
  | hang =>
    exact Call.bind_of_none (waitUntil_of_le hcancel)

/-- A task that rests may be looked at again at any instant up to the one at which it goes on. -/
theorem Rests.toCall_later (h : task.Rests w.clock) {n : Nat} (hn : w.clock ≤ n)
    (hdue : n ≤ task.due deadline) (hcancel : ∀ c ∈ w.cancelAt, n ≤ c) :
    task.toCall deadline { w with clock := n } = task.toCall deadline w := by
  cases h with
  | @wait instant next hlt =>
    change (reach instant >>= fun _ => next.toCall) deadline { w with clock := n } =
      (reach instant >>= fun _ => next.toCall) deadline w
    refine Call.bind_congr_at ?_
    rw [reach_of_lt hlt]
    rcases Nat.lt_or_ge n instant with hbefore | hle
    · exact (reach_of_lt hbefore).trans (waitUntil_later _ hn hcancel)
    · -- The instant has come, and the time is not over.
      obtain rfl : n = instant := Nat.le_antisymm (Nat.le_trans hdue (Nat.min_le_left _ _)) hle
      have hlast : lastInstant deadline (some n) = n :=
        Nat.min_eq_left (Nat.le_trans hdue (Nat.min_le_right _ _))
      have htime : (some n).any (· ≤ deadline) = true :=
        decide_eq_true (Nat.le_trans hdue (Nat.min_le_right _ _))
      rw [waitUntil_of_le (hlast.symm ▸ hcancel), hlast, htime]
      exact reach_of_le hle
  | hang => exact Call.bind_congr_at (waitUntil_later _ hn hcancel)

end

end Task

end QueryCriteria
