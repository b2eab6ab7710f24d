import QueryCriteria.Store.Guard
import QueryCriteria.Store.Repository

/-!
Calls that are one step of a server, under a guard and with retries. What the step keeps of the state
of the server is kept whatever becomes of the call.
-/
namespace QueryCriteria

variable {ω α : Type}

/-- Waiting is no step of the server. -/
theorem World.sleep_server (d : Duration) (w : World ω) : (World.sleep d w).2.server = w.server := by
  -- With the clock in one piece the two worlds would be compared field by field.
  obtain ⟨server, clock, cancelled, cancelAt⟩ := w
  rfl

/-- A step of the server takes no time, so only a cancellation keeps its result back. -/
theorem CallGuard.run_onServer (guard : CallGuard) (backend : String) (operation : StoreOperation)
    (step : ω → Except StoreError α × ω) (w : World ω) :
    guard.run backend operation (Call.onServer step) w =
      if w.cancelled then (.error (cancelledError backend operation), w)
      else ((step w.server).1.mapError (·.withBackend backend), { w with server := (step w.server).2 }) := by
  obtain ⟨server, clock, cancelled, cancelAt⟩ := w
  cases cancelled with
  | true => rfl
  | false => rfl

/-- A step whose outcome is known, and what is made of the outcome. -/
theorem World.run_map {β : Type} {step : StateM (World ω) α} {w w' : World ω} {a : α}
    (h : step w = (a, w')) (f : α → β) : (do return f (← step) : StateM (World ω) β) w = (f a, w') := by
  simp only [bind, StateT.bind]
  rw [h]
  rfl

namespace RetryPolicy

variable (policy : RetryPolicy)

/-- One attempt with retries left, and what follows it. -/
theorem runFrom_succ {σ : Type} {sleep : Duration → StateM σ Unit}
    {attempt : StateM σ (Except StoreError α)} (left retry : Nat) (s : σ) :
    policy.runFrom sleep attempt (left + 1) retry s =
      match attempt s with
      | (.ok a, s') => (.ok a, s')
      | (.error e, s') =>
        if e.isRetriable then
          policy.runFrom sleep attempt left (retry + 1) (sleep (policy.delayFor (retry + 1)) s').2
        else (.error e, s') := by
  rw [runFrom]
  simp only [bind, StateT.bind]
  rcases attempt s with ⟨e | a, s'⟩
  · change (if e.isRetriable then _ else _ : StateM σ (Except StoreError α)) s' =
      if e.isRetriable then _ else _
    cases e.isRetriable <;> rfl
  · rfl

variable {sleep : Duration → StateM (World ω) Unit} {attempt : StateM (World ω) (Except StoreError α)}

/-- An attempt that succeeds at once is not repeated. -/
theorem run_of_ok {w w' : World ω} {a : α} (h : attempt w = (.ok a, w')) :
    policy.run sleep attempt w = (.ok a, w') := by
  rw [run]
  cases policy.maxRetries.toNat with
  | zero => exact h
  | succ left => rw [runFrom_succ, h]

/-- An error that will not pass is returned at once. -/
theorem run_of_error {w w' : World ω} {e : StoreError} (h : attempt w = (.error e, w'))
    (he : e.isRetriable = false) : policy.run sleep attempt w = (.error e, w') := by
  rw [run]
  cases policy.maxRetries.toNat with
  | zero => exact h
  | succ left =>
    rw [runFrom_succ, h]
    dsimp only
    rw [he]
    rfl

/-- What every attempt and every wait keeps is kept by all of them together. -/
theorem run_keeps {P : World ω → Prop} (hattempt : ∀ w, P w → P (attempt w).2)
    (hsleep : ∀ d w, P w → P (sleep d w).2) {w : World ω} (hw : P w) :
    P (policy.run sleep attempt w).2 := by
  have hfrom : ∀ (left retry : Nat) (w : World ω), P w →
      P (policy.runFrom sleep attempt left retry w).2 := by
    intro left
    induction left with
    | zero => exact fun _ w hw => hattempt w hw
    | succ left ih =>
      intro retry w hw
      have hnext := hattempt w hw
      rw [runFrom_succ]
      revert hnext
      rcases attempt w with ⟨e | a, w'⟩ <;> intro hnext
      · dsimp only
        split
        · exact ih _ _ (hsleep _ _ hnext)
        · exact hnext
      · exact hnext
  exact hfrom _ _ w hw

end RetryPolicy

namespace Repository

variable {κ β : Type} (repo : Repository (StateM (World ω)) κ β)

/-- An attempt of a repository is one of the source, with more said about an error. -/
theorem attempt_eq (operation : StoreOperation) (id : Option String)
    (call : StateM (World ω) (Except StoreError α)) (w : World ω) :
    repo.attempt operation id call w =
      ((repo.retry.run repo.sleep call w).1.mapError
        fun e => { e with operation, entityId := id.or e.entityId },
        (repo.retry.run repo.sleep call w).2) := by
  rw [attempt]
  simp only [bind, StateT.bind]
  generalize repo.retry.run repo.sleep call w = outcome
  rfl

theorem attempt_of_ok (operation : StoreOperation) (id : Option String)
    {call : StateM (World ω) (Except StoreError α)} {w w' : World ω} {a : α}
    (h : call w = (.ok a, w')) : repo.attempt operation id call w = (.ok a, w') := by
  rw [attempt_eq, RetryPolicy.run_of_ok _ h]
  rfl

theorem attempt_of_error (operation : StoreOperation) (id : Option String)
    {call : StateM (World ω) (Except StoreError α)} {w w' : World ω} {e : StoreError}
    (h : call w = (.error e, w')) (he : e.isRetriable = false) :
    repo.attempt operation id call w =
      (.error { e with operation, entityId := id.or e.entityId }, w') := by
  rw [attempt_eq, RetryPolicy.run_of_error _ h he]
  rfl

variable {command : κ} {records : List Record} {w w' : World ω}

theorem searchById_of_fetchOne {id : String} {found : Option Record}
    (hcommand : repo.commands.findById id = .ok command)
    (hfetch : repo.source.fetchOne command w = (.ok found, w')) :
    repo.searchById id w =
      (found.elim (.ok none) fun record => (repo.mapper.toAggregate record).map some, w') := by
  rw [searchById, hcommand]
  refine (World.run_map (attempt_of_ok _ _ _ hfetch) _).trans ?_
  cases found <;> rfl

theorem searchById_of_error {id : String} {e : StoreError}
    (hcommand : repo.commands.findById id = .ok command)
    (hfetch : repo.source.fetchOne command w = (.error e, w')) (he : e.isRetriable = false) :
    repo.searchById id w = (.error { e with operation := .searchById, entityId := some id }, w') := by
  rw [searchById, hcommand]
  exact World.run_map (attempt_of_error _ _ _ hfetch he) _

theorem searchAll_of_error {e : StoreError} (hcommand : repo.commands.findAll = .ok command)
    (hfetch : repo.source.fetch command w = (.error e, w')) (he : e.isRetriable = false) :
    repo.searchAll w = (.error { e with operation := .searchAll }, w') := by
  rw [searchAll, hcommand]
  exact World.run_map (attempt_of_error _ _ _ hfetch he) fun records => records.bind fun records =>
    (Residual.none.apply records).mapM repo.mapper.toAggregate

theorem searchAll_of_fetch (hcommand : repo.commands.findAll = .ok command)
    (hfetch : repo.source.fetch command w = (.ok records, w')) :
    repo.searchAll w = (records.mapM repo.mapper.toAggregate, w') := by
  have hall := World.run_map (repo.attempt_of_ok .searchAll none hfetch) fun records =>
    records.bind fun records => (Residual.none.apply records).mapM repo.mapper.toAggregate
  have hnone : Residual.none.apply records = records := Residual.apply_of_isEmpty rfl records
  rw [Except.bind, hnone] at hall
  rw [searchAll, hcommand]
  exact hall

theorem matching_of_fetch {c : Criteria} {plan : QueryPlan κ} (hc : c.isEmpty = false)
    (hplan : repo.commands.matching c = .ok plan)
    (hfetch : repo.source.fetch plan.command w = (.ok records, w')) :
    repo.matching c w = ((plan.residual.apply records).mapM repo.mapper.toAggregate, w') := by
  rw [matching, hc, hplan]
  exact World.run_map (attempt_of_ok _ _ _ hfetch) fun records => records.bind fun records =>
    (plan.residual.apply records).mapM repo.mapper.toAggregate

end Repository

end QueryCriteria
