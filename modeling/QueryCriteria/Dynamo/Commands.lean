import QueryCriteria.Decimal.Numeral
import QueryCriteria.Dynamo.Query
import QueryCriteria.Store.Command

/-! Requests to DynamoDB for one table with a single partition key. -/
namespace QueryCriteria.Dynamo

inductive Command where
  | putItem (table : String) (item : Record)
  | getItem (table : String) (key : Record)
  | deleteItem (table : String) (key : Record)
  /-- Every item that passes the filter, page after page. -/
  | scan (table : String) (query : Query)

/-- A table, the attribute of its key, and whether keys are numbers. -/
structure Table where
  name : String
  idField : String
  numericKeys : Bool

namespace Table

/-- A key as a signed 64-bit integer: an optional sign and digits. -/
def numericKey? (id : String) : Option Int64 :=
  match Decimal.readInteger? id.toList with
  | some n => if -2 ^ 63 ≤ n ∧ n < 2 ^ 63 then some (Int64.ofInt n) else none
  | none => none

/-- The value of the key attribute for an identifier. -/
def keyValue (table : Table) (id : String) : Except StoreError Json :=
  if table.numericKeys then
    match numericKey? id with
    | some n => .ok (.ofInt64 n)
    | none =>
      .error ((StoreError.validation ("Key '" ++ id ++ "' is not numeric but table '" ++ table.name
        ++ "' uses numeric keys")).withBackend backendName)
  else .ok (.text id)

def key (table : Table) (id : String) : Except StoreError Record := do
  return [(table.idField, ← keyValue table id)]

/-- The requests of a repository over the table. Scans are paginated after they are complete. -/
def commands (table : Table) : CommandBuilder Command where
  idField := table.idField
  upsert id record := do
    return .putItem table.name (Entries.insert record table.idField (← keyValue table id))
  findById id := do return .getItem table.name (← key table id)
  findAll := .ok (.scan table.name .everything)
  matching c := do
    return ⟨.scan table.name (← Query.ofCriteria c), .pagination c.limit c.offset⟩
  delete id := do return .deleteItem table.name (← key table id)

end Table

end QueryCriteria.Dynamo
