import QueryCriteria.Proofs.Effect.Task
import QueryCriteria.Store.Guard

/-!
Guarded calls as they are polled. At every poll the token is looked at first, then the call is asked, then
the timer; the first poll at which one of the three is ready decides. The executor polls a call whenever
something may have happened, and a run of the guard is what comes of it.
-/
namespace QueryCriteria

variable {σ ω α : Type}

/-- A poll: what is seen of the token and of the timer, and what asking the call does. -/
structure Poll (σ α : Type) where
  cancelled : Bool
  call : StateM σ (Option (Except StoreError α))
  elapsed : Bool

namespace CallGuard

variable (guard : CallGuard) (backend : String) (operation : StoreOperation)

/-- What the guard makes of a poll. The call is not asked if the token is cancelled. -/
def poll (p : Poll σ α) : StateM σ (Option (Except StoreError α)) :=
  if p.cancelled then return guard.settle backend operation ⟨true, none, p.elapsed⟩
  else do return guard.settle backend operation ⟨false, ← p.call, p.elapsed⟩

/-- Polls until there is an outcome. -/
def polled : List (Poll σ α) → StateM σ (Option (Except StoreError α)) :=
  List.findSomeM? (guard.poll backend operation)

/-- At this poll something is ready: the token before the result, and the result before the timer. -/
inductive Decides (p : Poll σ α) (s : σ) : Except StoreError α → σ → Prop where
  | cancelled (hcancelled : p.cancelled = true) :
    Decides p s (.error ((StoreError.cancelled operation).withBackend backend)) s
  | finished {result : Except StoreError α} {s' : σ} (hcancelled : p.cancelled = false)
      (hcall : p.call s = (some result, s')) :
    Decides p s (result.mapError (·.withBackend backend)) s'
  | elapsed {s' : σ} (hcancelled : p.cancelled = false) (hcall : p.call s = (none, s'))
      (helapsed : p.elapsed = true) :
    Decides p s (.error ((StoreError.timeout operation
      ("No response within " ++ guard.timeout.display)).withBackend backend)) s'

end CallGuard

/-- At none of these polls anything is ready. -/
inductive Poll.Quiet : List (Poll σ α) → σ → σ → Prop where
  | nil (s : σ) : Quiet [] s s
  | cons {p : Poll σ α} {later : List (Poll σ α)} {s s' s'' : σ} (hcancelled : p.cancelled = false)
      (hcall : p.call s = (none, s')) (helapsed : p.elapsed = false) (hlater : Quiet later s' s'') :
    Quiet (p :: later) s s''

/-- What is seen at one poll after the other, from a state on. -/
def Poll.observations : List (Poll σ α) → σ → List (Observation α)
  | [], _ => []
  | p :: later, s =>
    if p.cancelled then ⟨true, none, p.elapsed⟩ :: observations later s
    else ⟨false, (p.call s).1, p.elapsed⟩ :: observations later (p.call s).2

namespace CallGuard

variable {guard : CallGuard} {backend : String} {operation : StoreOperation} {p : Poll σ α}
  {polls : List (Poll σ α)} {s s' : σ} {outcome : Except StoreError α}

theorem poll_of_cancelled (h : p.cancelled = true) :
    guard.poll backend operation p s =
      (some (.error ((StoreError.cancelled operation).withBackend backend)), s) := by
  rw [poll, if_pos h]
  rfl

theorem poll_of_not_cancelled (h : p.cancelled = false) :
    guard.poll backend operation p s =
      (guard.settle backend operation ⟨false, (p.call s).1, p.elapsed⟩, (p.call s).2) := by
  rw [poll, if_neg (Bool.eq_false_iff.mp h)]
  rfl

theorem Decides.poll_eq (h : guard.Decides backend operation p s outcome s') :
    guard.poll backend operation p s = (some outcome, s') := by
  cases h with
  | cancelled hcancelled => exact poll_of_cancelled hcancelled
  | finished hcancelled hcall =>
    rw [poll_of_not_cancelled hcancelled, hcall]
    rfl
  | elapsed hcancelled hcall helapsed =>
    rw [poll_of_not_cancelled hcancelled, hcall, helapsed]
    rfl

theorem poll_of_quiet (hcancelled : p.cancelled = false) (hcall : p.call s = (none, s'))
    (helapsed : p.elapsed = false) : guard.poll backend operation p s = (none, s') := by
  rw [poll_of_not_cancelled hcancelled, hcall, helapsed]
  rfl

/-- Something is ready, or nothing is. -/
theorem decides_or_quiet (guard : CallGuard) (backend : String) (operation : StoreOperation)
    (p : Poll σ α) (s : σ) :
    (∃ outcome s', guard.Decides backend operation p s outcome s') ∨
      ∃ s', p.cancelled = false ∧ p.call s = (none, s') ∧ p.elapsed = false := by
  cases hcancelled : p.cancelled with
  | true => exact .inl ⟨_, _, .cancelled hcancelled⟩
  | false =>
    rcases hcall : p.call s with ⟨_ | result, s'⟩
    · cases helapsed : p.elapsed with
      | true => exact .inl ⟨_, _, .elapsed hcancelled hcall helapsed⟩
      | false => exact .inr ⟨s', rfl, rfl, rfl⟩
    · exact .inl ⟨_, _, .finished hcancelled hcall⟩

theorem polled_cons (p : Poll σ α) (later : List (Poll σ α)) (s : σ) :
    guard.polled backend operation (p :: later) s =
      match guard.poll backend operation p s with
      | (some outcome, s') => (some outcome, s')
      | (none, s') => guard.polled backend operation later s' := by
  rw [polled, List.findSomeM?_cons]
  simp only [bind, StateT.bind]
  rcases guard.poll backend operation p s with ⟨_ | outcome, s'⟩ <;> rfl

/-- The outcome of polls is the one of the first observation that settles one. -/
theorem polled_fst (polls : List (Poll σ α)) (s : σ) :
    (guard.polled backend operation polls s).1 =
      guard.firstSettled backend operation (Poll.observations polls s) := by
  induction polls generalizing s with
  | nil => rfl
  | cons p later ih =>
    rw [polled_cons, firstSettled, Poll.observations]
    cases hcancelled : p.cancelled with
    | true =>
      rw [poll_of_cancelled hcancelled]
      rfl
    | false =>
      rw [poll_of_not_cancelled hcancelled, if_neg Bool.false_ne_true, List.findSome?_cons]
      cases guard.settle backend operation ⟨false, (p.call s).1, p.elapsed⟩ with
      | none => exact ih (p.call s).2
      | some outcome => rfl

theorem Decides.polled_eq (h : guard.Decides backend operation p s outcome s') (later : List (Poll σ α)) :
    guard.polled backend operation (p :: later) s = (some outcome, s') := by
  rw [polled_cons, h.poll_eq]

theorem polled_append_of_quiet (hquiet : Poll.Quiet polls s s') (later : List (Poll σ α)) :
    guard.polled backend operation (polls ++ later) s = guard.polled backend operation later s' := by
  induction hquiet with
  | nil s => rfl
  | cons hcancelled hcall helapsed _ ih =>
    rw [List.cons_append, polled_cons, poll_of_quiet hcancelled hcall helapsed]
    exact ih

theorem polled_of_quiet (hquiet : Poll.Quiet polls s s') :
    guard.polled backend operation polls s = (none, s') := by
  rw [← List.append_nil polls, polled_append_of_quiet hquiet]
  rfl

/-- What a whole sequence of polls comes to: all of them are quiet, or a first one decides. -/
theorem quiet_or_decided (guard : CallGuard) (backend : String) (operation : StoreOperation)
    (polls : List (Poll σ α)) (s : σ) :
    (∃ s', Poll.Quiet polls s s') ∨
      ∃ before p after s₁ outcome s', polls = before ++ p :: after ∧ Poll.Quiet before s s₁ ∧
        guard.Decides backend operation p s₁ outcome s' := by
  induction polls generalizing s with
  | nil => exact .inl ⟨s, .nil s⟩
  | cons p later ih =>
    rcases decides_or_quiet guard backend operation p s with
      ⟨outcome, s', hdecides⟩ | ⟨s', hcancelled, hcall, helapsed⟩
    · exact .inr ⟨[], p, later, s, outcome, s', rfl, .nil s, hdecides⟩
    · rcases ih s' with ⟨s'', hquiet⟩ | ⟨before, q, after, s₁, outcome, s'', rfl, hquiet, hdecides⟩
      · exact .inl ⟨s'', .cons hcancelled hcall helapsed hquiet⟩
      · exact .inr ⟨p :: before, q, after, s₁, outcome, s'', rfl, .cons hcancelled hcall helapsed hquiet,
          hdecides⟩

/-- There is an outcome exactly if a poll decides, with nothing ready before it. -/
theorem polled_eq_some_iff :
    guard.polled backend operation polls s = (some outcome, s') ↔
      ∃ before p after s₁, polls = before ++ p :: after ∧ Poll.Quiet before s s₁ ∧
        guard.Decides backend operation p s₁ outcome s' := by
  constructor
  · intro h
    rcases quiet_or_decided guard backend operation polls s with
      ⟨s₁, hquiet⟩ | ⟨before, p, after, s₁, found, s₂, rfl, hquiet, hdecides⟩
    · cases h.symm.trans (polled_of_quiet hquiet)
    · cases h.symm.trans ((polled_append_of_quiet hquiet _).trans (hdecides.polled_eq after))
      exact ⟨before, p, after, s₁, rfl, hquiet, hdecides⟩
  · rintro ⟨before, p, after, s₁, rfl, hquiet, hdecides⟩
    exact (polled_append_of_quiet hquiet _).trans (hdecides.polled_eq after)

/-- The polls end without an outcome exactly if nothing is ready at any of them. -/
theorem polled_eq_none_iff :
    guard.polled backend operation polls s = (none, s') ↔ Poll.Quiet polls s s' := by
  refine ⟨fun h => ?_, polled_of_quiet⟩
  rcases quiet_or_decided guard backend operation polls s with
    ⟨s₁, hquiet⟩ | ⟨before, p, after, s₁, found, s₂, rfl, hquiet, hdecides⟩
  · cases h.symm.trans (polled_of_quiet hquiet)
    exact hquiet
  · cases h.symm.trans ((polled_append_of_quiet hquiet _).trans (hdecides.polled_eq after))

end CallGuard

end QueryCriteria
