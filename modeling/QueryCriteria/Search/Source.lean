import QueryCriteria.Json.Printer
import QueryCriteria.Search.Inspect
import QueryCriteria.Store.Guard
import QueryCriteria.Store.Link
import QueryCriteria.Store.Source

/-!
Documents on a search node. The client is built with the first call, which sends nothing, so that it
fails for good or not at all. What an index does not have is no error: a document that is not there is
none, and a search of an index that does not exist finds nothing.
-/
namespace QueryCriteria.Search

/-- Why there is no response, or no body in it. -/
inductive TransportFault where
  | timedOut (detail : String)
  /-- The body is no JSON. -/
  | malformed (detail : String)
  | unreachable (detail : String)

def TransportFault.toStoreError (operation : StoreOperation) (fault : TransportFault) : StoreError :=
  let error := match fault with
    | .timedOut detail => StoreError.timeout operation detail
    | .malformed detail => .serialization operation detail
    | .unreachable detail => (StoreError.connectionFailed detail).withOperation operation
  error.withBackend backendName

/-- What a node is asked. Writes say whether they are waited for until searches find them. -/
inductive NodeRequest where
  | index (index id : String) (document : Record) (refresh : Bool)
  | delete (index id : String) (refresh : Bool)
  | get (index id : String)
  | search (index : String) (body : Json)

/-- A response: its status, also with its meaning as it is shown, and its body, which has yet to arrive. -/
structure Response (σ : Type) where
  status : Nat
  shownStatus : String
  json : Call σ (Except TransportFault Json)
  text : Call σ (Option String)

/-- The client of a node whose state is a `σ`. -/
structure Client (σ : Type) where
  /-- What is wrong with an address. -/
  addressFault? : String → Option String
  /-- Why there is no transport with this configuration and time limit. -/
  transportFault? : SearchConfig → Duration → Option String
  send : NodeRequest → Call σ (Except TransportFault (Response σ))

/-- The status of what is not there. -/
def notFound : Nat := 404

def Response.isSuccess {σ : Type} (response : Response σ) : Bool :=
  200 ≤ response.status && response.status < 300

/-- The error that a response without success describes. -/
def Response.refusal {σ : Type} (response : Response σ) (operation : StoreOperation) (text : String) :
    StoreError :=
  let message := "Request failed (status " ++ response.shownStatus ++ "): " ++ text
  let error :=
    if response.status = 400 then StoreError.new operation .inexpressible message
    else if response.status ∈ [429, 502, 503, 504] then
      (StoreError.connectionFailed message).withOperation operation
    else .backendFailure operation message
  error.withBackend backendName

/-- The record in a document, if the document was found. -/
def sourceOf? (document : Json) : Option (Except StoreError Record) :=
  let unreadable (message : String) : Except StoreError Record :=
    .error ((StoreError.serialization .fetch message).withBackend backendName)
  match document.field? "found", document.field? "_source" with
  | some (.bool false), _ => none
  | _, some (.object record) => some (.ok record)
  | _, some other => some (unreadable ("Expected an object as _source, got " ++ other.render))
  | _, none => some (unreadable "Document has no _source; is _source disabled for the index?")

/-- The documents that a search found. -/
def hits (result : Json) : List Json :=
  match (result.field? "hits").bind (·.field? "hits") with
  | some (.array documents) => documents
  | _ => []

/-- A source of records on a node. -/
structure Source (σ : Type) where
  client : Client σ
  config : SearchConfig
  guard : CallGuard

namespace Source

variable {σ : Type}

/-- A source that builds its client with its first call; over a client that exists already, its slot is
connected from the beginning. -/
def new (client : Client σ) (config : SearchConfig) (settings : SourceConfig) : Source σ :=
  ⟨client, config, .ofConfig settings⟩

/-- Builds the client. Of the two halves of the credentials, one is not enough. -/
def buildClient (source : Source σ) : Except StoreError Unit :=
  let unusable (message : String) : Except StoreError Unit :=
    .error ((StoreError.configuration message).withBackend backendName)
  match source.client.addressFault? source.config.url with
  | some detail => unusable ("Invalid URL '" ++ source.config.url ++ "': " ++ detail)
  | none =>
    if source.config.username.isSome = source.config.password.isSome then
      match source.client.transportFault? source.config source.guard.timeout with
      | some detail => unusable ("Failed to build transport: " ++ detail)
      | none => .ok ()
    else unusable "username and password must be set together"

def connect (source : Source σ) : Attempt (Linked Unit σ) Unit :=
  Linked.connection .never (return source.buildClient)

def send (source : Source σ) (operation : StoreOperation) (request : NodeRequest) :
    Attempt (Linked Unit σ) (Response σ) := ExceptT.mk do
  return (← Linked.ask (source.client.send request)).mapError (TransportFault.toStoreError operation)

/-- The body of a response with success. -/
def successBody (operation : StoreOperation) (response : Response σ) :
    Attempt (Linked Unit σ) Json := ExceptT.mk do
  if response.isSuccess then
    return (← Linked.ask response.json).mapError (TransportFault.toStoreError operation)
  else
    let text ← Linked.ask response.text
    return .error (response.refusal operation (text.getD ""))

def get (source : Source σ) (name id : String) : Attempt (Linked Unit σ) (Option Record) := do
  source.connect
  let response ← source.send .fetchOne (.get name id)
  if response.status = notFound then return none
  match sourceOf? (← successBody .fetchOne response) with
  | some record => return some (← record)
  | none => return none

/-- Of several documents the first without a record decides. -/
def search (source : Source σ) (name : String) (body : Json) :
    Attempt (Linked Unit σ) (List Record) := do
  source.connect
  let response ← source.send .fetch (.search name body)
  if response.status = notFound then return []
  let result ← successBody .fetch response
  ((hits result).filterMap sourceOf?).mapM fun record => (record : Except StoreError Record)

def execute (source : Source σ) (command : Command) : Attempt (Linked Unit σ) Unit := do
  source.connect
  match command with
  | .index name id document =>
    let response ← source.send .execute (.index name id document source.config.refresh)
    let _ ← successBody .execute response
  | .delete name id =>
    let response ← source.send .execute (.delete name id source.config.refresh)
    unless response.status = notFound do
      let _ ← successBody .execute response
  | other => throw (.backendFailure .execute (other.inspect ++ " returns records; use fetch"))

/-- The records that a command yields, for one of the two operations that yield records. -/
def fetch (source : Source σ) (operation : StoreOperation) :
    Command → Attempt (Linked Unit σ) (List Record)
  | .get name id => return (← source.get name id).toList
  | .search name body => source.search name body
  | other => throw (.backendFailure operation (other.inspect ++ " returns no records"))

/-- The three calls, each under the guard. -/
def toDataSource (source : Source σ) : DataSource (StateM (World (Linked Unit σ))) Command where
  backend := backendName
  execute command := source.guard.run backendName .execute (source.execute command).run
  fetchOne command := source.guard.run backendName .fetchOne
    (do return (← source.fetch .fetchOne command).head? : Attempt _ _).run
  fetch command := source.guard.run backendName .fetch (source.fetch .fetch command).run

end Source

end QueryCriteria.Search
