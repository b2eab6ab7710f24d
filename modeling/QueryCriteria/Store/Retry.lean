import QueryCriteria.Config.Basic
import QueryCriteria.Effect.Duration
import QueryCriteria.Store.Error

/-!
Retries of calls that may be repeated. Only errors that may pass are retried; the waits double each
time. Nothing is logged here; what becomes of a run whose log cannot name the number of its attempts is
`RetryPolicy.runCounted`.
-/
namespace QueryCriteria

/-- How often a call is repeated, and how long the first wait is. -/
structure RetryPolicy where
  maxRetries : UInt32
  baseDelay : Duration

namespace RetryPolicy

/-- Never retries. -/
def never : RetryPolicy := ⟨0, .zero⟩

/-- The policy for calls of a source. -/
def ofConfig (config : SourceConfig) : RetryPolicy :=
  ⟨config.maxRetries, .ofMillis config.retryDelayMillis⟩

/-- The policy for attempts to connect. -/
def forConnect (config : SourceConfig) : RetryPolicy :=
  ⟨config.connectMaxRetries, .ofMillis config.retryDelayMillis⟩

def default : RetryPolicy := ofConfig .default

/-- The factor of the wait before a retry: it doubles up to the largest 32-bit number. -/
def factor (retry : Nat) : Nat :=
  min (Nat.pow 2 (min (retry - 1) 32)) (2 ^ 32 - 1)

/-- The wait before a retry; the first retry has the number 1. -/
def delayFor (policy : RetryPolicy) (retry : Nat) : Duration :=
  policy.baseDelay.scale (factor retry)

variable {m : Type → Type} [Monad m] {α : Type}

/-- Attempts a call when `retry` retries are over and `left` are still allowed. -/
def runFrom (policy : RetryPolicy) (sleep : Duration → m Unit) (attempt : m (Except StoreError α)) :
    (left retry : Nat) → m (Except StoreError α)
  | 0, _ => attempt
  | left + 1, retry => do
    match ← attempt with
    | .ok a => return .ok a
    | .error e =>
      if e.isRetriable then
        sleep (policy.delayFor (retry + 1))
        runFrom policy sleep attempt left (retry + 1)
      else return .error e

/-- Attempts a call until it succeeds, fails for good, or no retries are left. -/
def run (policy : RetryPolicy) (sleep : Duration → m Unit) (attempt : m (Except StoreError α)) :
    m (Except StoreError α) :=
  runFrom policy sleep attempt policy.maxRetries.toNat 0

end RetryPolicy

end QueryCriteria
