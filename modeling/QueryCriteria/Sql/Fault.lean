import QueryCriteria.Store.Error

/-! What goes wrong with a database, sorted into groups that tell users what to look at. -/
namespace QueryCriteria.Sql

inductive Fault where
  | configuration (detail : String)
  /-- The server refuses. -/
  | database (code message : String)
  | network (detail : String)
  /-- The machine is there, and the server is not. -/
  | refused
  | encryption (detail : String)
  /-- No connection of the pool became free in time. -/
  | poolTimedOut
  | poolClosed
  | workerCrashed
  | columnMissing (name : String)
  /-- A value cannot be read as what is wanted. -/
  | unreadable (detail : String)
  | other (detail : String)

namespace Fault

def category : Fault → String
  | .configuration _ => "Configuration error"
  | .database _ _ => "Database query error"
  | .network _ | .refused => "Network I/O error - check connectivity"
  | .encryption _ => "TLS/SSL error - check certificate configuration"
  | .poolTimedOut => "Connection pool timeout - database may be overloaded"
  | .poolClosed => "Connection pool closed"
  | .workerCrashed => "Database worker crashed"
  | .columnMissing _ | .unreadable _ | .other _ => "Database error"

def detail : Fault → String
  | .configuration detail => "error with configuration: " ++ detail
  | .database _ message => "error returned from database: " ++ message
  | .network detail => "error communicating with database: " ++ detail
  | .refused => "error communicating with database: connection refused"
  | .encryption detail => "error occurred while attempting to establish a TLS connection: " ++ detail
  | .poolTimedOut => "pool timed out while waiting for an open connection"
  | .poolClosed => "attempted to acquire a connection on a closed pool"
  | .workerCrashed => "attempted to communicate with a crashed background worker"
  | .columnMissing name => "no column found for name: " ++ name
  | .unreadable detail => "error occurred while decoding: " ++ detail
  | .other detail => detail

def kind : Fault → StoreErrorKind
  | .network _ | .refused | .encryption _ | .poolTimedOut | .poolClosed | .workerCrashed => .connectionFailed
  | .columnMissing _ | .unreadable _ => .serialization
  | .configuration _ => .configuration
  | .database _ _ | .other _ => .backend

/-- The error of an operation; it does not name the backend yet. -/
def toStoreError (operation : StoreOperation) (fault : Fault) : StoreError :=
  .new operation fault.kind (fault.category ++ ": " ++ fault.detail)

end Fault

end QueryCriteria.Sql
