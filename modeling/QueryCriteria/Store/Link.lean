import QueryCriteria.Effect.Call
import QueryCriteria.Store.Connection
import QueryCriteria.Store.Retry

/-!
Sources with a server behind them. A source keeps a slot for its connection; it is connected within
the first call that needs it, and so within the time of that call.
-/
namespace QueryCriteria

/-- A call that may fail. -/
abbrev Attempt (ω : Type) := ExceptT StoreError (Call ω)

/-- A source's slot for its connection, and the server. -/
structure Linked (γ σ : Type) where
  slot : Slot γ
  server : σ

namespace Linked

variable {γ σ α : Type}

/-- A call of the server. -/
def ask (call : Call σ α) : Call (Linked γ σ) α := fun deadline => OptionT.mk fun w =>
  let (a, inner) := call deadline { w with server := w.server.server }
  (a, { inner with server := { w.server with server := inner.server } })

/-- The connection of the source; if there is none, it is made under a policy. -/
def connection (policy : RetryPolicy) (connect : Call σ (Except StoreError γ)) :
    Attempt (Linked γ σ) γ := ExceptT.mk do
  let w ← (get : StateM (World (Linked γ σ)) (World (Linked γ σ)))
  let (outcome, slot) ← w.server.slot.getOrConnect (policy.run Call.sleep (ask connect))
  Call.onServer (modify fun linked => { linked with slot })
  return outcome

end Linked

end QueryCriteria
