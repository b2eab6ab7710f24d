import QueryCriteria.Sql.Commands
import QueryCriteria.Sql.Row
import QueryCriteria.Sql.Url
import QueryCriteria.Store.Guard
import QueryCriteria.Store.Link
import QueryCriteria.Store.Source

/-!
Tables in a PostgreSQL database. The guard is about connecting and about running a statement; the
rows are read as records when the call is over.
-/
namespace QueryCriteria.Sql

def backendName : String := "postgres"

/-- The client of a database whose state is a `σ`. -/
structure Client (σ : Type) where
  /-- Makes a pool of connections and tries it out. -/
  makePool : PostgresConfig → Call σ (Except Fault Unit)
  /-- Runs a statement on a connection of the pool. -/
  run : Statement → Call σ (Except Fault (List Row))

/-- A source of records in a database. -/
structure Source (σ : Type) where
  client : Client σ
  config : PostgresConfig
  guard : CallGuard
  /-- Retries of an attempt to make the pool. -/
  policy : RetryPolicy

/-- The error of an attempt to connect; the address is shown without its password. -/
def connectError? (url : String) (fault : Fault) : Option StoreError :=
  (maskPassword? url).map fun shown =>
    (StoreError.connectionFailed ("Failed to connect to database at '" ++ shown ++ "': "
      ++ fault.category ++ " (" ++ fault.detail ++ ")")).withBackend backendName

namespace Source

variable {σ α : Type}

/-- A source that makes its pool with its first call. -/
def new (client : Client σ) (config : PostgresConfig) (settings : SourceConfig) : Source σ :=
  ⟨client, config, .ofConfig settings, .forConnect settings⟩

/-- A source over a pool that exists already; its slot is connected from the beginning. -/
def overPool (client : Client σ) (settings : SourceConfig) : Source σ :=
  ⟨client, .default, .ofConfig settings, .never⟩

/-- Makes the pool. If that fails and the address cannot be shown, there is no error but a crash. -/
def makePool (source : Source σ) : Call σ (Except StoreError Unit) := do
  match ← source.client.makePool source.config with
  | .ok () => return .ok ()
  | .error fault =>
    match connectError? source.config.url fault with
    | some error => return .error error
    | none => Call.crash

/-- Runs a statement, connected before. -/
def run (source : Source σ) (operation : StoreOperation) (statement : Statement) :
    Attempt (Linked Unit σ) (List Row) := do
  Linked.connection source.policy source.makePool
  match ← (Linked.ask (source.client.run statement) : Call (Linked Unit σ) _) with
  | .ok rows => return rows
  | .error fault => throw (fault.toStoreError operation)

/-- A statement under the guard. -/
def guarded (source : Source σ) (operation : StoreOperation) (statement : Statement) :
    StateM (World (Linked Unit σ)) (Except StoreError (List Row)) :=
  source.guard.run backendName operation (source.run operation statement).run

/-- The three calls. Of several rows the first that is no record decides. -/
def toDataSource (source : Source σ) : DataSource (StateM (World (Linked Unit σ))) Statement where
  backend := backendName
  execute statement := do
    return (← source.guarded .execute statement).map fun _ => ()
  fetchOne statement := do
    return (← source.guarded .fetchOne statement).bind fun rows => rows.head?.mapM Row.record
  fetch statement := do
    return (← source.guarded .fetch statement).bind fun rows => rows.mapM Row.record

end Source

end QueryCriteria.Sql
