import QueryCriteria.Dynamo.Wire
import QueryCriteria.Scripted.Exchange

/-! A DynamoDB service that follows a script. -/
namespace QueryCriteria.Scripted

open QueryCriteria.Dynamo

/-- The response in a reply; an empty body stands for an empty object. -/
def responseOf (reply : Json) : Response where
  status := ((reply.uint64At? "status").getD 200).toNat
  body := match reply.textAt? "raw" with
    | some "" => some (.object [])
    | some raw => (Json.parse raw).toOption
    | none => reply.field? "body"

/-- A request for a table. The client does not send it without the name of the table. -/
def sendRequest {α : Type} (reachable : Bool) (operation table : String) (body : Json)
    (read : Json → Option α) : Call Exchange (Except ServiceFault α) := do
  if table = "" then return .error (.unsendable "the name of the table is empty")
  if !reachable then return .error (.unreachable "connection refused")
  match ← Exchange.ask (.array [.text operation, body]) with
  | none => return .error (.unreachable "connection closed")
  | some reply =>
    if ((reply.uint64At? "missing").getD 0) ≠ 0 then
      return .error (.brokenResponse "the body is incomplete")
    return (responseOf reply).read read

/-- The service, behind an endpoint that can be reached or not. -/
def dynamoService (patience : Nat) (reachable : Bool) : Service Exchange where
  putItem table item :=
    sendRequest reachable "PutItem" table (itemRequest "Item" table item) readChange
  deleteItem table key :=
    sendRequest reachable "DeleteItem" table (itemRequest "Key" table key) readChange
  getItem table key :=
    sendRequest reachable "GetItem" table (itemRequest "Key" table key) readItem
  scan request := sendRequest reachable "Scan" request.table request.wire readPage
  patience

end QueryCriteria.Scripted
