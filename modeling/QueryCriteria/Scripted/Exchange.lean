import QueryCriteria.Effect.Call
import QueryCriteria.Json.Lookup

/-!
Servers that follow a script: every request is logged and takes the next reply from a queue. A reply
may also be that the server closes the connection, as it does when the queue is empty, or that it
never answers.
-/
namespace QueryCriteria.Scripted

structure Exchange where
  replies : List Json
  /-- Requests in the order in which they came. -/
  sent : List Json
  /-- How the first attempts to connect are refused; later ones succeed. -/
  startup : List Json
  /-- Whether the client has the address of this server. -/
  reachable : Bool
  /-- Whether there is a connection that has not been closed. -/
  connected : Bool

namespace Exchange

/-- A server at its start. -/
def start (startup : List Json) : Exchange := ⟨[], [], startup, true, false⟩

/-- A server with more replies, and an empty log. -/
def extend (exchange : Exchange) (replies : List Json) : Exchange :=
  { exchange with replies := exchange.replies ++ replies, sent := [] }

/-- Logs a request and takes a reply from the queue. -/
def take (request : Json) : StateM Exchange (Option Json) := fun exchange =>
  (exchange.replies.head?,
    { exchange with replies := exchange.replies.tail, sent := exchange.sent ++ [request] })

/-- Takes the refusal of an attempt to connect, or accepts it. -/
def knock : StateM Exchange (Option Json) := fun exchange =>
  match exchange.startup with
  | refusal :: rest => (some refusal, { exchange with startup := rest })
  | [] => (none, { exchange with connected := true })

def disconnect : Call Exchange Unit :=
  Call.onServer (modify ({ · with connected := false }))

/-- The reply to a request, unless the server closes the connection. -/
def ask (request : Json) : Call Exchange (Option Json) := do
  match ← Call.onServer (take request) with
  | none =>
    disconnect
    return none
  | some reply =>
    if reply.flagAt "hang" then
      disconnect
      Call.hang
    else if reply.flagAt "close" then
      disconnect
      return none
    else return some reply

/-- Notes whether the client has the address of this server. -/
def setReachable (reachable : Bool) : Call Exchange Unit :=
  Call.onServer (modify ({ · with reachable }))

def isReachable : Call Exchange Bool :=
  Call.onServer (fun exchange => (exchange.reachable, exchange))

def isConnected : Call Exchange Bool :=
  Call.onServer (fun exchange => (exchange.connected, exchange))

end Exchange

end QueryCriteria.Scripted
