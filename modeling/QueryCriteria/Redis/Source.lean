import QueryCriteria.Json.Parser
import QueryCriteria.Json.Printer
import QueryCriteria.KeyValue.Inspect
import QueryCriteria.Redis.Key
import QueryCriteria.Redis.Request
import QueryCriteria.Store.Guard
import QueryCriteria.Store.Link
import QueryCriteria.Store.Source

/-!
Collections in a Redis server. A record is stored as JSON text under its key. A scan collects all keys
first, each once and in ascending order, and then fetches what is stored under them; a key that has
expired meanwhile is passed over.
-/
namespace QueryCriteria.Redis

open KeyValue (Command)

/-- Why there is no pool of connections. -/
inductive PoolFault where
  /-- The address cannot be used. -/
  | address (detail : String)
  | settings (detail : String)
  | connection (detail : String)

/-- Why there is no reply. -/
inductive Silence where
  | timedOut
  | disconnected

/-- The client of a server whose state is a `σ`. -/
structure Client (σ : Type) where
  /-- Makes a pool of connections. -/
  makePool : RedisConfig → Call σ (Except PoolFault Unit)
  /-- Takes a connection from the pool, or says why there is none. -/
  connect : Call σ (Except String Unit)
  ask : Request → Call σ (Except Silence Reply)
  /-- No more requests of a scan than this fit into the time of a call. -/
  patience : Nat

/-- A pool that cannot be made is an error of connecting. -/
def PoolFault.toStoreError (fault : PoolFault) : StoreError :=
  let error := match fault with
    | .address detail => StoreError.configuration ("Failed to build Redis pool: " ++ detail)
    | .settings detail => .configuration ("Failed to create Redis pool: " ++ detail)
    | .connection detail => .connectionFailed ("Failed to get Redis connection: " ++ detail)
  error.withBackend backendName

def Silence.toStoreError (operation : StoreOperation) (silence : Silence) : StoreError :=
  let error := match silence with
    | .timedOut => StoreError.timeout operation "The server did not answer in time"
    | .disconnected =>
      (StoreError.connectionFailed "The server closed the connection").withOperation operation
  error.withBackend backendName

/-- The record in a stored text. -/
def decode (operation : StoreOperation) (payload : String) : Except StoreError Record :=
  match Json.parseRecord payload with
  | .ok record => .ok record
  | .error _ => .error ((StoreError.serialization operation "Stored value is not a record").withBackend backendName)

/-- Pieces of a list, all of the same length except for the last. -/
def pieces {α : Type} (size : Nat) : List α → List (List α)
  | [] => []
  | a :: rest => (a :: rest.take (size - 1)) :: pieces size (rest.drop (size - 1))
termination_by items => items.length

/-- Texts in ascending order, each once. -/
def distinct (texts : List String) : List String :=
  Entries.keys (texts.foldl (fun set text => Entries.insert set text ()) [])

/-- A source of records on a server. -/
structure Source (σ : Type) where
  client : Client σ
  config : RedisConfig
  guard : CallGuard
  /-- Retries of an attempt to make the pool. -/
  policy : RetryPolicy

namespace Source

variable {σ α : Type}

/-- A source that makes its pool with its first call. -/
def new (client : Client σ) (config : RedisConfig) (settings : SourceConfig) : Source σ :=
  ⟨client, config, .ofConfig settings, .forConnect settings⟩

/-- A source over a pool that exists already; its slot is connected from the beginning. -/
def overPool (client : Client σ) (config : RedisConfig) (settings : SourceConfig) : Source σ :=
  ⟨client, config, .ofConfig settings, .never⟩

/-- Makes the pool and tries it out. -/
def makePool (source : Source σ) : Call σ (Except StoreError Unit) := do
  match ← source.client.makePool source.config with
  | .error fault => return .error fault.toStoreError
  | .ok () =>
    return (← source.client.connect).mapError fun detail => (PoolFault.connection detail).toStoreError

/-- A connection of the pool. -/
def connect (source : Source σ) (operation : StoreOperation) : Attempt (Linked Unit σ) Unit := do
  Linked.connection source.policy source.makePool
  match ← (Linked.ask source.client.connect : Call (Linked Unit σ) _) with
  | .ok () => return ()
  | .error detail => throw ((PoolFault.connection detail).toStoreError.withOperation operation)

/-- Asks the server, and reads its reply as what is wanted. -/
def ask (source : Source σ) (operation : StoreOperation) (request : Request)
    (read : Reply → Option α) : Attempt (Linked Unit σ) α := do
  let refused (message : String) : StoreError :=
    (StoreError.backendFailure operation message).withBackend backendName
  match ← (Linked.ask (source.client.ask request) : Call (Linked Unit σ) _) with
  | .error silence => throw (silence.toStoreError operation)
  | .ok (.failure message) => throw (refused ("An error was signalled by the server: " ++ message))
  | .ok reply =>
    match read reply with
    | some a => return a
    | none => throw (refused "The reply has another type than expected")

def put (source : Source σ) (collection id : String) (record : Record) :
    Attempt (Linked Unit σ) Unit := do
  let key ← recordKey collection id
  source.connect .execute
  source.ask .execute (.set key (Json.object record).render source.config.timeToLive) fun _ => some ()

def get (source : Source σ) (collection id : String) : Attempt (Linked Unit σ) (Option Record) := do
  let key ← recordKey collection id
  source.connect .fetchOne
  match ← source.ask .fetchOne (.get key) Reply.textOrNil? with
  | some payload => return some (← decode .fetchOne payload)
  | none => return none

/-- The keys of all pages from a cursor on; a scan that never ends takes all the time there is. -/
def collectKeys (source : Source σ) (glob : String) :
    (patience : Nat) → UInt64 → Attempt (Linked Unit σ) (List String)
  | 0, _ => (Call.hang : Call (Linked Unit σ) _)
  | patience + 1, cursor => do
    let (next, keys) ← source.ask .fetch (.scan cursor glob) Reply.page?
    if next = 0 then return keys
    return keys ++ (← collectKeys source glob patience next)

/-- What is stored under keys, page by page; the first text that is no record ends it. -/
def fetchPages (source : Source σ) : List (List String) → Attempt (Linked Unit σ) (List Record)
  | [] => return []
  | keys :: rest => do
    let payloads ← source.ask .fetch (.getAll keys) (Reply.list? Reply.textOrNil?)
    let records ← (payloads.reduceOption.mapM (decode .fetch) : Except StoreError _)
    return records ++ (← fetchPages source rest)

/-- The records whose keys begin with a text, in the order of their keys. -/
def scan (source : Source σ) (collection : String) (start : Option String) :
    Attempt (Linked Unit σ) (List Record) := do
  let glob := keysFrom (← recordKey collection (start.getD ""))
  source.connect .fetch
  let keys ← source.collectKeys glob source.client.patience 0
  source.fetchPages (pieces pageSize (distinct keys))

def remove (source : Source σ) (collection id : String) : Attempt (Linked Unit σ) Unit := do
  let key ← recordKey collection id
  source.connect .execute
  let _ ← source.ask .execute (.del key) Reply.number?

def execute (source : Source σ) : Command → Attempt (Linked Unit σ) Unit
  | .put collection id record => source.put collection id record
  | .delete collection id => source.remove collection id
  | other => throw (.backendFailure .execute (other.inspect ++ " returns records; use fetch"))

/-- The records that a command yields, for one of the two operations that yield records. -/
def fetch (source : Source σ) (operation : StoreOperation) :
    Command → Attempt (Linked Unit σ) (List Record)
  | .get collection id => return (← source.get collection id).toList
  | .scan collection start => source.scan collection start
  | other => throw (.backendFailure operation (other.inspect ++ " returns no records"))

/-- The three calls, each under the guard. -/
def toDataSource (source : Source σ) : DataSource (StateM (World (Linked Unit σ))) Command where
  backend := backendName
  execute command := source.guard.run backendName .execute (source.execute command).run
  fetchOne command := source.guard.run backendName .fetchOne
    (do return (← source.fetch .fetchOne command).head? : Attempt _ _).run
  fetch command := source.guard.run backendName .fetch (source.fetch .fetch command).run

end Source

end QueryCriteria.Redis
