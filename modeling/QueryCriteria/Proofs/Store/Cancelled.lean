import QueryCriteria.Dynamo.Source
import QueryCriteria.KeyValue.Memory
import QueryCriteria.Proofs.Store.Session
import QueryCriteria.Proofs.Store.Timeline
import QueryCriteria.Redis.Source
import QueryCriteria.Search.Source
import QueryCriteria.Sql.Source

/-!
Sources whose token is cancelled. Every call of every source is refused before anything of it happens: no
connection is made, the server is not asked, and what is stored stays as it is.
-/
namespace QueryCriteria

variable {ω κ α : Type}

def SourceCall.operation : SourceCall → StoreOperation
  | .execute => .execute
  | .fetchOne => .fetchOne
  | .fetch => .fetch

/-- The error of an outcome. -/
def failure : Except StoreError α → Option StoreError
  | .error e => some e
  | .ok _ => none

namespace DataSource

/-- Makes a call, and tells how it failed, if it did. -/
def issue (source : DataSource (StateM (World ω)) κ) (command : κ) :
    SourceCall → StateM (World ω) (Option StoreError)
  | .execute => do return failure (← source.execute command)
  | .fetchOne => do return failure (← source.fetchOne command)
  | .fetch => do return failure (← source.fetch command)

/-- Makes calls one after the other, each after a pause. -/
def issueAll (source : DataSource (StateM (World ω)) κ) (calls : List (Duration × SourceCall × κ)) :
    StateM (World ω) (List (Option StoreError)) :=
  calls.mapM fun call => do
    World.sleep call.1
    source.issue call.2.2 call.2.1

/-- The sources that there are, whatever is behind them and however they are configured. -/
inductive Offered : {ω κ : Type} → DataSource (StateM (World ω)) κ → Prop where
  | memory (guard : CallGuard) : Offered (KeyValue.Memory.source guard)
  | redis {σ : Type} (source : Redis.Source σ) : Offered source.toDataSource
  | sql {σ : Type} (source : Sql.Source σ) : Offered source.toDataSource
  | dynamo {σ : Type} (source : Dynamo.Source σ) : Offered source.toDataSource
  | search {σ : Type} (source : Search.Source σ) : Offered source.toDataSource

/-- The source refuses a call in a world, and leaves the world as it is. -/
def Refuses (source : DataSource (StateM (World ω)) κ) (w : World ω) : Prop :=
  ∀ command call,
    source.issue command call w = (some (CallGuard.cancelledError source.backend call.operation), w)

variable {source : DataSource (StateM (World ω)) κ} {w : World ω}

theorem refuses_of_calls
    (hexecute : ∀ command, source.execute command w =
      (.error (CallGuard.cancelledError source.backend .execute), w))
    (hfetchOne : ∀ command, source.fetchOne command w =
      (.error (CallGuard.cancelledError source.backend .fetchOne), w))
    (hfetch : ∀ command, source.fetch command w =
      (.error (CallGuard.cancelledError source.backend .fetch), w)) : source.Refuses w := by
  intro command call
  cases call with
  | execute => exact World.run_map (hexecute command) failure
  | fetchOne => exact World.run_map (hfetchOne command) failure
  | fetch => exact World.run_map (hfetch command) failure

theorem Offered.refuses (h : source.Offered) (hw : w.cancelled = true) : source.Refuses w := by
  cases h with
  | memory guard =>
    refine refuses_of_calls ?_ ?_ ?_ <;> intro command <;>
      simp only [KeyValue.Memory.source, CallGuard.run_of_cancelled hw]
  | redis source =>
    refine refuses_of_calls ?_ ?_ ?_ <;> intro command <;>
      simp only [Redis.Source.toDataSource, CallGuard.run_of_cancelled hw]
  | sql source =>
    -- Rows are read behind the guard, but there are none.
    exact refuses_of_calls (fun _ => World.run_map (CallGuard.run_of_cancelled hw _) _)
      (fun _ => World.run_map (CallGuard.run_of_cancelled hw _) _)
      (fun _ => World.run_map (CallGuard.run_of_cancelled hw _) _)
  | dynamo source =>
    refine refuses_of_calls ?_ ?_ ?_ <;> intro command <;>
      simp only [Dynamo.Source.toDataSource, CallGuard.run_of_cancelled hw]
  | search source =>
    refine refuses_of_calls ?_ ?_ ?_ <;> intro command <;>
      simp only [Search.Source.toDataSource, CallGuard.run_of_cancelled hw]

end DataSource

/-- What calls leave of a world whose token was cancelled: time has passed, and nothing else. -/
structure World.Idles (w w' : World ω) : Prop where
  cancelled : w'.cancelled = true
  server : w'.server = w.server
  crashed : w'.crashed = w.crashed

theorem World.idles_sleep (d : Duration) {w : World ω} (hw : w.cancelled = true) :
    w.Idles (World.sleep d w).2 := by
  obtain ⟨server, clock, cancelled, cancelAt, crashed⟩ := w
  obtain rfl : cancelled = true := hw
  exact ⟨rfl, rfl, rfl⟩

theorem World.Idles.trans {w w' w'' : World ω} (h : w.Idles w') (h' : w'.Idles w'') : w.Idles w'' :=
  ⟨h'.cancelled, h'.server.trans h.server, h'.crashed.trans h.crashed⟩

namespace DataSource

variable {source : DataSource (StateM (World ω)) κ} {w : World ω}

theorem issueAll_cons (call : Duration × SourceCall × κ) (rest : List (Duration × SourceCall × κ))
    (w : World ω) : source.issueAll (call :: rest) w =
      let (outcome, w) := source.issue call.2.2 call.2.1 (World.sleep call.1 w).2
      let (outcomes, w) := source.issueAll rest w
      (outcome :: outcomes, w) := by
  rw [issueAll, List.mapM_cons]
  rfl

/-- After a cancellation every call is refused, however many there are and whatever pauses are made. -/
theorem issueAll_of_cancelled (h : source.Offered) (calls : List (Duration × SourceCall × κ))
    (hw : w.cancelled = true) :
    ∃ w', source.issueAll calls w = (calls.map fun call =>
      some (CallGuard.cancelledError source.backend call.2.1.operation), w') ∧ w.Idles w' := by
  induction calls generalizing w with
  | nil => exact ⟨w, rfl, hw, rfl, rfl⟩
  | cons call rest ih =>
    have hpause := World.idles_sleep call.1 hw
    obtain ⟨w', hrest, hidles⟩ := ih hpause.cancelled
    refine ⟨w', ?_, hpause.trans hidles⟩
    rw [issueAll_cons, h.refuses hpause.cancelled]
    dsimp only
    rw [hrest]
    rfl

end DataSource

/--
The first poll at which something is ready decides a guarded call: a cancelled token, without the call
being asked; else the result, with the guard's backend in an error; else the end of the time. Polls at which
nothing is ready decide nothing. A run of the guard returns what polls decide, at whatever moments the call
is polled, and there are such moments. After a cancellation every source refuses every call, and nothing
becomes of it.
-/
theorem CallGuard.first_ready_decides {σ ω ν κ α : Type} (guard : CallGuard) (backend : String)
    (operation : StoreOperation) (task : Task ω (Except StoreError α)) {w : World ω} (hw : w.Punctual)
    {source : DataSource (StateM (World ν)) κ} (hsource : source.Offered)
    (calls : List (Duration × SourceCall × κ)) {v : World ν} (hv : v.cancelled = true) :
    (∀ (polls : List (Poll σ α)) (s s' : σ) (outcome : Except StoreError α),
      guard.polled backend operation polls s = (some outcome, s') ↔
        ∃ before p after s₁, polls = before ++ p :: after ∧ Poll.Quiet before s s₁ ∧
          guard.Decides backend operation p s₁ outcome s') ∧
    (∀ (polls : List (Poll σ α)) (s s' : σ),
      guard.polled backend operation polls s = (none, s') ↔ Poll.Quiet polls s s') ∧
    (∀ moments outcome state', w.Schedules (w.clock + guard.timeout.millisUp) task moments →
      guard.polled backend operation (moments.map (Moment.poll (w.clock + guard.timeout.millisUp)))
        (task, w.server) = (some outcome, state') →
      World.leaves (guard.run backend operation task.toCall w) = (outcome, state'.2)) ∧
    (∃ moments outcome state', w.Schedules (w.clock + guard.timeout.millisUp) task moments ∧
      guard.polled backend operation (moments.map (Moment.poll (w.clock + guard.timeout.millisUp)))
        (task, w.server) = (some outcome, state')) ∧
    (guard.run backend operation task.toCall w).2.Punctual ∧
    ∃ v', source.issueAll calls v = (calls.map fun call =>
      some ((StoreError.cancelled call.2.1.operation).withBackend source.backend), v') ∧ v.Idles v' :=
  ⟨fun _ _ _ _ => polled_eq_some_iff, fun _ _ _ => polled_eq_none_iff,
    fun _ _ _ => run_of_schedules hw, exists_schedule guard backend operation task hw,
    run_punctual task hw, DataSource.issueAll_of_cancelled hsource calls hv⟩

/-- A server that counts what it is asked, connections included. -/
def Redis.countingClient : Redis.Client Nat where
  makePool _ := Call.onServer fun n => (.ok (), n + 1)
  connect := Call.onServer fun n => (.ok (), n + 1)
  ask _ := Call.onServer fun n => (.ok .nil, n + 1)
  patience := 1

/-- A write after 50 milliseconds. -/
def lateWrite : Call Nat (Except StoreError Unit) := do
  Call.sleep (.ofMillis 50)
  Call.onServer fun n => (.ok (), n + 1)

/-- The same write in its single steps. -/
def lateWriteTask : Task Nat (Except StoreError Unit) :=
  (Task.sleep (.ofMillis 50)).bind fun _ => .ofStep fun n => (.ok (), n + 1)

theorem toCall_lateWriteTask : lateWriteTask.toCall = lateWrite := by
  simp only [lateWriteTask, Task.toCall_bind, Task.toCall_sleep, Task.toCall_ofStep]
  rfl

/-- What is left of the write while it waits. -/
def lateWriteRest : Task Nat (Except StoreError Unit) :=
  .wait (0 + (Duration.ofMillis 50).millisUp) (.ofStep fun n => (.ok (), n + 1))

theorem rests_lateWriteRest : lateWriteRest.Rests 0 :=
  .wait (by decide +kernel)

theorem advance_lateWriteTask : lateWriteTask.advance 0 0 = lateWriteRest.advance 0 0 := rfl

/-- A world whose token is cancelled after 30 milliseconds. -/
def soonCancelled : World Nat :=
  ⟨0, 0, false, some 30, false⟩

theorem schedules_lateWriteTask :
    soonCancelled.Schedules (0 + (Duration.ofMillis 100).millisUp) lateWriteTask
      [⟨0, false⟩, ⟨30, true⟩] := by
  refine ⟨[⟨30, true⟩], rfl, ?_⟩
  change Follows _ (some 30) 0 (lateWriteTask.advance 0 0) _
  rw [advance_lateWriteTask, rests_lateWriteRest.advance_eq]
  exact .cancelled rfl (by decide +kernel)

theorem polled_lateWriteTask (guard : CallGuard) (backend : String) (operation : StoreOperation) :
    guard.polled backend operation
      (([⟨0, false⟩, ⟨30, true⟩] : List Moment).map (Moment.poll (0 + (Duration.ofMillis 100).millisUp)))
        (lateWriteTask, 0) =
      (some (.error (CallGuard.cancelledError backend operation)), (lateWriteRest, 0)) := by
  refine (CallGuard.polled_of_advance_eq advance_lateWriteTask [⟨30, true⟩]).trans ?_
  rw [CallGuard.polled_of_rests rests_lateWriteRest (by decide +kernel)]
  exact CallGuard.polled_of_cancelled 30 [] (lateWriteRest, 0)

/-- A world whose token is cancelled already. -/
def afterCancellation : World (Linked Unit Nat) :=
  ⟨⟨.empty, 0⟩, 0, true, none, false⟩

/-- A poll that waits, and one at which the result and the end of the time come together. -/
def lastMoment : List (Poll Nat Unit) :=
  [⟨false, fun n => (none, n + 1), false⟩,
    ⟨false, fun n => (some (.error (.connectionFailed "gone")), n + 1), true⟩]

theorem CallGuard.first_ready_decides_lateWrite :
    soonCancelled.Punctual ∧
      (Redis.Source.new Redis.countingClient .default .default).toDataSource.Offered ∧
      afterCancellation.cancelled = true ∧
      (CallGuard.mk (.ofMillis 100)).polled "redis" .execute lastMoment 0 =
        (some (.error ((StoreError.connectionFailed "gone").withBackend "redis")), 2) ∧
      World.leaves ((CallGuard.mk (.ofMillis 100)).run "redis" .execute lateWrite soonCancelled) =
        (.error (cancelledError "redis" .execute), 0) ∧
      ∃ v', (Redis.Source.new Redis.countingClient .default .default).toDataSource.issueAll
        [(.zero, .execute, .put "users" "1" []), (.ofMillis 5, .fetch, .scan "users" none)]
          afterCancellation =
        ([some ((StoreError.cancelled .execute).withBackend "redis"),
          some ((StoreError.cancelled .fetch).withBackend "redis")], v') ∧ afterCancellation.Idles v' := by
  have hw : soonCancelled.Punctual := by
    rintro - c ⟨⟩
    decide
  obtain ⟨hpolls, -, hrun, -, -, hcalls⟩ := CallGuard.first_ready_decides (σ := Nat) ⟨.ofMillis 100⟩ "redis"
    .execute lateWriteTask hw (.redis (.new Redis.countingClient .default .default))
    [(.zero, .execute, .put "users" "1" []), (.ofMillis 5, .fetch, .scan "users" none)]
    (v := afterCancellation) rfl
  refine ⟨hw, .redis _, rfl, ?_, ?_, hcalls⟩
  · let gone : Except StoreError Unit := .error (.connectionFailed "gone")
    have hdecides : (CallGuard.mk (.ofMillis 100)).Decides "redis" .execute lastMoment[1] 1
        (gone.mapError (·.withBackend "redis")) 2 := .finished rfl rfl
    exact (hpolls lastMoment 0 2 _).mpr
      ⟨[lastMoment[0]], lastMoment[1], [], 1, rfl, .cons rfl rfl rfl (.nil 1), hdecides⟩
  · rw [← toCall_lateWriteTask]
    exact hrun [⟨0, false⟩, ⟨30, true⟩] _ (lateWriteRest, 0) schedules_lateWriteTask
      (polled_lateWriteTask _ _ _)

end QueryCriteria
