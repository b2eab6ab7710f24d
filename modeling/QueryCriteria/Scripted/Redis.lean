import QueryCriteria.Redis.Address
import QueryCriteria.Redis.Source
import QueryCriteria.Scripted.Exchange

/-! A Redis server that follows a script. -/
namespace QueryCriteria.Scripted

open QueryCriteria.Redis

mutual

/-- An item of a list: a text, nil, or a list again. -/
def replyItem : Json → Reply
  | .text s => .bulk s
  | .array items => .array (replyItems items)
  | _ => .nil

def replyItems : List Json → List Reply
  | [] => []
  | item :: rest => replyItem item :: replyItems rest

end

/-- A written reply; its only field names its type. -/
def redisReply (json : Json) : Reply :=
  match json.object? with
  | some [("status", .text s)] => .status s
  | some [("int", .number (.integer n))] => .integer n.val
  | some [("array", .array items)] => .array (replyItems items)
  | some [("error", .text message)] => .failure message
  | some [("bulk", .text s)] => .bulk s
  | _ => .nil

/--
The client of the server, or of an address where there is none. A pool without connections never gives
one.
-/
def redisClient (patience : Nat) (reachable : Bool) : Client Exchange where
  makePool config := do
    if !reachable then
      if let some fault := addressFault? config.url then return .error (.address fault)
    Exchange.setReachable reachable
    if config.maxConnections = 0 then Call.hang
    return .ok ()
  connect := do
    return if (← Exchange.isReachable) then .ok () else .error "connection refused"
  ask request := do
    match ← Exchange.ask (.ofTexts request.words) with
    | some reply => return .ok (redisReply reply)
    | none => return .error .disconnected
  patience

end QueryCriteria.Scripted
