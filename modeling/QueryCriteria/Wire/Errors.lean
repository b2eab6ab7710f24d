import QueryCriteria.Json.Lookup
import QueryCriteria.Store.Error

/-! Errors written in JSON: a name, the message, and what else is known. -/
namespace QueryCriteria

def CriteriaError.name : CriteriaError → String
  | .emptyField => "EmptyField"
  | .invalidOperator _ => "InvalidOperator"
  | .invalidField _ _ _ => "InvalidField"
  | .invalidOrderType _ => "InvalidOrderType"
  | .invalidValue _ _ _ => "InvalidValue"
  | .negativePagination _ _ => "NegativePagination"

def CriteriaError.toJson (error : CriteriaError) : Json :=
  .ofFields [("error", .text error.name), ("message", .text error.message),
    ("allowed", .ofOption .ofTexts error.allowed?)]

def StoreOperation.all : List StoreOperation :=
  [.save, .searchById, .searchAll, .matching, .delete, .connect, .execute, .fetchOne, .fetch, .convert]

/-- The operation with a name. -/
def StoreOperation.ofText? (s : String) : Option StoreOperation :=
  all.find? (·.text == s)

def StoreErrorKind.all : List StoreErrorKind :=
  [.validation, .unsupportedOperator, .inexpressible, .timeout, .connectionFailed, .cancelled, .backend,
    .serialization, .configuration]

/-- The kind with a name. -/
def StoreErrorKind.ofText? (s : String) : Option StoreErrorKind :=
  all.find? (·.text == s)

namespace StoreError

def toJson (error : StoreError) : Json :=
  .ofFields [("error", .text error.kind.text), ("message", .text error.display),
    ("operation", .text error.operation.text), ("backend", .ofOption .text error.backend),
    ("entity_id", .ofOption .text error.entityId), ("retriable", .bool error.isRetriable)]

/-- An error of its parts; unknown words count as a failure of the backend at a fetch. -/
def ofJson (json : Json) : StoreError where
  operation := (StoreOperation.ofText? (json.textAt "operation")).getD .fetch
  kind := (StoreErrorKind.ofText? (json.textAt "kind")).getD .backend
  message := json.textAt "message"
  backend := json.textAt? "backend"
  entityId := json.textAt? "id"

end StoreError

end QueryCriteria
