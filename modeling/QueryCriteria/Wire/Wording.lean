import QueryCriteria.Text.Split
import QueryCriteria.Wire.Errors

/-!
Messages of errors without the wording of client libraries, which may change from one version to the
next. Messages of this library are kept, others are cut to what this library put in front of them.
-/
namespace QueryCriteria.Wording

/-- Messages that begin with one of these are kept. -/
def keptStarts : List String :=
  ["No response within", "Operation was cancelled", "Collection name", "Expected a JSON object",
    "access_key_id and", "Key '", "Record must have"]

/-- Messages that end with one of these are kept. -/
def keptEnds : List String :=
  ["; use fetch", "returns no records", "is not a representable number"]

/-- Messages that begin with one of these are cut behind it. -/
def cutStarts : List String :=
  ["Failed to get Redis connection", "Failed to build Redis pool", "Failed to create Redis pool",
    "Stored value is not a record", "Unsupported attribute value", "Configuration error",
    "Database query error", "Network I/O error - check connectivity",
    "Connection pool timeout - database may be overloaded", "Connection pool closed",
    "Database worker crashed", "Database error"]

/-- Messages that begin with this are cut before the first remark in brackets. -/
def remarkStart : String := "Failed to connect to database at '"

/-- A text without what follows the first occurrence of a blank and a bracket. -/
def beforeRemark : List Char → List Char
  | [] => []
  | ' ' :: '(' :: _ => []
  | c :: rest => c :: beforeRemark rest

/-- A message as it is compared. -/
def shown (message : String) : String :=
  if keptStarts.any (message.startsWith ·) || keptEnds.any (message.endsWith ·) then message
  else if message.startsWith remarkStart then String.ofList (beforeRemark message.toList)
  else (cutStarts.find? (message.startsWith ·)).getD ""

end QueryCriteria.Wording

/-- The error with its message as it is compared. -/
def QueryCriteria.StoreError.withoutWording (error : StoreError) : StoreError :=
  { error with message := Wording.shown error.message }
