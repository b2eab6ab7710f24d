import QueryCriteria.Dynamo.Attribute
import QueryCriteria.Dynamo.Inspect
import QueryCriteria.Store.Guard
import QueryCriteria.Store.Link
import QueryCriteria.Store.Source

/-!
Tables in DynamoDB. A scan asks for page after page; a page that names the key where it ended is not
the last one.
-/
namespace QueryCriteria.Dynamo

/-- Why a request has no result. -/
inductive ServiceFault where
  | timedOut
  | unreachable (detail : String)
  /-- The client does not send the request. -/
  | unsendable (detail : String)
  /-- The response did not arrive as a whole. -/
  | brokenResponse (detail : String)
  /-- The service refuses, perhaps with a code, or its response cannot be understood. -/
  | rejected (code : Option String) (detail : String)

/-- The code of the service for an expression that it does not accept. -/
def invalidExpressionCode : String := "ValidationException"

def ServiceFault.toStoreError (operation : StoreOperation) (fault : ServiceFault) : StoreError :=
  let error := match fault with
    | .timedOut => StoreError.timeout operation "request has timed out"
    | .unreachable detail =>
      (StoreError.connectionFailed ("dispatch failure: " ++ detail)).withOperation operation
    | .unsendable detail =>
      (StoreError.configuration ("failed to construct request: " ++ detail)).withOperation operation
    | .brokenResponse detail => .serialization operation ("response error: " ++ detail)
    | .rejected code detail =>
      if code = some invalidExpressionCode then .new operation .inexpressible ("service error: " ++ detail)
      else .backendFailure operation ("service error: " ++ detail)
  error.withBackend backendName

/-- A request for a page of a scan, behind a key if one is given. -/
structure ScanRequest where
  table : String
  filter : Option String
  names : Entries String
  values : Item
  start : Option Item

/-- A page of a scan, and the key where it ended. -/
structure Page where
  items : List Item
  last : Option Item

/-- The key of the next page; an empty key is none. -/
def Page.next? (page : Page) : Option Item :=
  page.last.filter (!·.isEmpty)

/-- The requests of the service whose state is a `σ`. -/
structure Service (σ : Type) where
  putItem : (table : String) → (item : Item) → Call σ (Except ServiceFault Unit)
  deleteItem : (table : String) → (key : Item) → Call σ (Except ServiceFault Unit)
  getItem : (table : String) → (key : Item) → Call σ (Except ServiceFault (Option Item))
  scan : ScanRequest → Call σ (Except ServiceFault Page)
  /-- No more requests of a scan than this fit into the time of a call. -/
  patience : Nat

/-- A source of records in the service. -/
structure Source (σ : Type) where
  service : Service σ
  config : DynamoConfig
  guard : CallGuard
  /-- Retries of an attempt to make the client. -/
  policy : RetryPolicy

namespace Source

variable {σ α : Type}

/-- A source that makes its client with its first call. -/
def new (service : Service σ) (config : DynamoConfig) (settings : SourceConfig) : Source σ :=
  ⟨service, config, .ofConfig settings, .forConnect settings⟩

/-- A source over a client that exists already; its slot is connected from the beginning. -/
def overClient (service : Service σ) (settings : SourceConfig) : Source σ :=
  ⟨service, .default, .ofConfig settings, .never⟩

/-- Makes the client, which sends nothing. Of the two halves of the credentials, one is not enough. -/
def makeClient (config : DynamoConfig) : Except StoreError Unit :=
  if config.accessKeyId.isSome = config.secretAccessKey.isSome then .ok ()
  else .error ((StoreError.configuration
    "access_key_id and secret_access_key must be set together").withBackend backendName)

def connect (source : Source σ) : Attempt (Linked Unit σ) Unit :=
  Linked.connection source.policy (return makeClient source.config)

/-- A request of the service, with its faults as errors of an operation. -/
def ask (operation : StoreOperation) (call : Call σ (Except ServiceFault α)) :
    Attempt (Linked Unit σ) α := ExceptT.mk do
  return (← Linked.ask call).mapError (ServiceFault.toStoreError operation)

/-- The records of all pages; a scan that never ends takes all the time there is. -/
def scanPages (source : Source σ) : (patience : Nat) → ScanRequest → Attempt (Linked Unit σ) (List Record)
  | 0, _ => (Call.hang : Call (Linked Unit σ) _)
  | patience + 1, request => do
    let page ← ask .fetch (source.service.scan request)
    let records ← (page.items.mapM Item.toRecord : Except StoreError _)
    match page.next? with
    | some key => return records ++ (← scanPages source patience { request with start := some key })
    | none => return records

def scan (source : Source σ) (table : String) (query : Query) : Attempt (Linked Unit σ) (List Record) := do
  source.connect
  source.scanPages source.service.patience
    ⟨table, query.filter, query.names, Item.ofRecord query.values, none⟩

def get (source : Source σ) (table : String) (key : Record) : Attempt (Linked Unit σ) (Option Record) := do
  source.connect
  match ← ask .fetchOne (source.service.getItem table (Item.ofRecord key)) with
  | some item => return some (← Item.toRecord item)
  | none => return none

def execute (source : Source σ) (command : Command) : Attempt (Linked Unit σ) Unit := do
  source.connect
  match command with
  | .putItem table item => ask .execute (source.service.putItem table (Item.ofRecord item))
  | .deleteItem table key => ask .execute (source.service.deleteItem table (Item.ofRecord key))
  | other => throw (.backendFailure .execute (other.inspect ++ " returns records; use fetch"))

/-- The records that a command yields, for one of the two operations that yield records. -/
def fetch (source : Source σ) (operation : StoreOperation) :
    Command → Attempt (Linked Unit σ) (List Record)
  | .getItem table key => return (← source.get table key).toList
  | .scan table query => source.scan table query
  | other => throw (.backendFailure operation (other.inspect ++ " returns no records"))

/-- The three calls, each under the guard. -/
def toDataSource (source : Source σ) : DataSource (StateM (World (Linked Unit σ))) Command where
  backend := backendName
  execute command := source.guard.run backendName .execute (source.execute command).run
  fetchOne command := source.guard.run backendName .fetchOne
    (do return (← source.fetch .fetchOne command).head? : Attempt _ _).run
  fetch command := source.guard.run backendName .fetch (source.fetch .fetch command).run

end Source

end QueryCriteria.Dynamo
