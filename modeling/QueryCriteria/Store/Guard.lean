import QueryCriteria.Config.Basic
import QueryCriteria.Effect.Call
import QueryCriteria.Store.Error

/-!
Guarded calls. Every call has a time limit, and a token may cancel it. When several things have
happened, a cancellation counts before a result, and a result before the end of the time.
-/
namespace QueryCriteria

/-- The time limit of calls. -/
structure CallGuard where
  timeout : Duration

/-- What can be seen of a call at one moment. -/
structure Observation (α : Type) where
  cancelled : Bool
  /-- The result, once the call has finished. -/
  ready : Option (Except StoreError α)
  elapsed : Bool

namespace CallGuard

variable {α ω : Type}

def ofConfig (config : SourceConfig) : CallGuard := ⟨.ofMillis config.timeoutMillis⟩

def default : CallGuard := ofConfig .default

def timeoutError (guard : CallGuard) (backend : String) (operation : StoreOperation) : StoreError :=
  (StoreError.timeout operation ("No response within " ++ guard.timeout.display)).withBackend backend

def cancelledError (backend : String) (operation : StoreOperation) : StoreError :=
  (StoreError.cancelled operation).withBackend backend

/-- The outcome that an observation settles, if it settles one. Errors name the backend. -/
def settle (guard : CallGuard) (backend : String) (operation : StoreOperation)
    (seen : Observation α) : Option (Except StoreError α) :=
  if seen.cancelled then some (.error (cancelledError backend operation))
  else
    match seen.ready with
    | some result => some (result.mapError (·.withBackend backend))
    | none => if seen.elapsed then some (.error (guard.timeoutError backend operation)) else none

/-- The outcome at the first observation that settles one. -/
def firstSettled (guard : CallGuard) (backend : String) (operation : StoreOperation)
    (observations : List (Observation α)) : Option (Except StoreError α) :=
  observations.findSome? (guard.settle backend operation)

/--
Runs a call under the guard. It is seen when it starts and when it ends; if it has not finished by
then, its time is over.
-/
def run (guard : CallGuard) (backend : String) (operation : StoreOperation)
    (call : Call ω (Except StoreError α)) : StateM (World ω) (Except StoreError α) := fun w =>
  match guard.settle backend operation (⟨w.cancelled, none, false⟩ : Observation α) with
  | some outcome => (outcome, w)
  | none =>
    let (ready, w) := call (w.clock + guard.timeout.millisUp) w
    match guard.settle backend operation ⟨w.cancelled, ready, true⟩ with
    | some outcome => (outcome, w)
    | none => (.error (guard.timeoutError backend operation), w)

end CallGuard

end QueryCriteria
