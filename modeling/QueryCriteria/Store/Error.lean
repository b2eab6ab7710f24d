import QueryCriteria.Criteria.Error

/-! Errors of repositories and data sources: what was being done, what kind of failure it was, and where. -/
namespace QueryCriteria

/-- What was being done when an error occurred. -/
inductive StoreOperation where
  | save
  | searchById
  | searchAll
  | matching
  | delete
  | connect
  | execute
  | fetchOne
  | fetch
  | convert
deriving DecidableEq, Repr

def StoreOperation.text : StoreOperation → String
  | .save => "save"
  | .searchById => "search_by_id"
  | .searchAll => "search_all"
  | .matching => "matching"
  | .delete => "delete"
  | .connect => "connect"
  | .execute => "execute"
  | .fetchOne => "fetch_one"
  | .fetch => "fetch"
  | .convert => "convert"

inductive StoreErrorKind where
  /-- A field, operator or order that is not valid. -/
  | validation
  /-- An operator that the backend cannot evaluate. -/
  | unsupportedOperator
  /-- Criteria that the backend cannot express without loss. -/
  | inexpressible
  | timeout
  | connectionFailed
  | cancelled
  /-- The backend rejected a command or failed at it. -/
  | backend
  /-- A record could not be encoded or decoded. -/
  | serialization
  | configuration
deriving DecidableEq, Repr

def StoreErrorKind.text : StoreErrorKind → String
  | .validation => "validation"
  | .unsupportedOperator => "unsupported_operator"
  | .inexpressible => "translation"
  | .timeout => "timeout"
  | .connectionFailed => "connection_failed"
  | .cancelled => "cancelled"
  | .backend => "backend"
  | .serialization => "serialization"
  | .configuration => "configuration"

structure StoreError where
  operation : StoreOperation
  kind : StoreErrorKind
  message : String
  backend : Option String
  entityId : Option String
deriving DecidableEq

namespace StoreError

/-- An error that names neither backend nor entity. -/
def new (operation : StoreOperation) (kind : StoreErrorKind) (message : String) : StoreError :=
  ⟨operation, kind, message, none, none⟩

def withBackend (error : StoreError) (backend : String) : StoreError :=
  { error with backend := some backend }

def withEntityId (error : StoreError) (id : String) : StoreError :=
  { error with entityId := some id }

def withOperation (error : StoreError) (operation : StoreOperation) : StoreError :=
  { error with operation }

def validation (message : String) : StoreError :=
  new .matching .validation message

def unsupportedOperator (backend operator : String) : StoreError :=
  (new .convert .unsupportedOperator
    ("Operator " ++ operator ++ " is not supported by " ++ backend)).withBackend backend

def inexpressible (backend message : String) : StoreError :=
  (new .convert .inexpressible message).withBackend backend

def timeout (operation : StoreOperation) (message : String) : StoreError :=
  new operation .timeout message

def connectionFailed (message : String) : StoreError :=
  new .connect .connectionFailed message

def cancelled (operation : StoreOperation) : StoreError :=
  new operation .cancelled "Operation was cancelled"

def backendFailure (operation : StoreOperation) (message : String) : StoreError :=
  new operation .backend message

def serialization (operation : StoreOperation) (message : String) : StoreError :=
  new operation .serialization message

def configuration (message : String) : StoreError :=
  new .connect .configuration message

/-- Criteria that are not valid, as an error of a repository. -/
def ofCriteriaError (error : CriteriaError) : StoreError :=
  validation error.message

/-- Whether the same call may succeed when it is made again. -/
def isRetriable (error : StoreError) : Bool :=
  error.kind == .connectionFailed || error.kind == .timeout

/-- A bracketed remark, if there is something to remark. -/
private def remark (label : String) : Option String → String
  | some text => " [" ++ label ++ ": " ++ text ++ "]"
  | none => ""

def display (error : StoreError) : String :=
  "Repository " ++ error.kind.text ++ " error during " ++ error.operation.text ++ ": "
    ++ error.message ++ remark "backend" error.backend ++ remark "id" error.entityId

theorem isRetriable_withOperation (error : StoreError) (operation : StoreOperation) :
    (error.withOperation operation).isRetriable = error.isRetriable := rfl

end StoreError

end QueryCriteria
