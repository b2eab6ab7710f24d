import Mathlib.Algebra.Group.Nat.Defs
import Mathlib.Data.ENat.Lattice
import QueryCriteria.Logging.Filter
import QueryCriteria.Proofs.Store.Run

/-!
Retries seen from outside, attempt by attempt and wait by wait. The outcomes of the attempts are given
beforehand, and everything that happens is written down. The same loop with numbers of 32 bits breaks
off where one of them does not fit. Its counter of retries always fits; the number of attempts, which
the last line of the log names, is one more and does not fit after the last retry of the largest policy.
-/
namespace QueryCriteria

namespace RetryEvent

variable {α : Type}

end RetryEvent

namespace RetryPolicy

open Logging (Level)

variable {α σ : Type} (policy : RetryPolicy) (script : Nat → Except StoreError α)

section Waits

example : factor 32 = 2 ^ 31 ∧ factor 33 = 2 ^ 32 - 1 := ⟨rfl, rfl⟩

end Waits

section Attempts

variable {script}

variable {sleep : Duration → StateM σ Unit} {attempt : StateM σ (Except StoreError α)} {s : σ}

end Attempts

section Counter

variable {script} {logs : Level → Bool} {sleep : Duration → StateM σ Unit}
  {attempt : StateM σ (Except StoreError α)} {s : σ} {retry : UInt32}

end Counter

end RetryPolicy

end QueryCriteria
