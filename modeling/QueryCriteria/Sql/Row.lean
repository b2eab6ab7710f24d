import QueryCriteria.Json.Parser
import QueryCriteria.Json.Printer
import QueryCriteria.Sql.Fault

/-!
Rows of results. A record is what stands in the column `record`, in the binary form of JSON: a version
and the text.
-/
namespace QueryCriteria.Sql

/-- A value of a row as the server sends it. -/
inductive Cell where
  | null
  | json (bytes : String)
  /-- A value of another type. -/
  | other

/-- The columns of a row with their names. -/
abbrev Row := List (String × Cell)

/-- The character of the only version of the binary form. -/
def jsonVersion : Char := '\x01'

def Cell.toJson? : Cell → Except Fault Json
  | .null => .error (.unreadable "unexpected null; try decoding as an Option")
  | .other => .error (.unreadable "mismatched types")
  | .json bytes =>
    match bytes.toList with
    | version :: text =>
      if version = jsonVersion then
        (Json.parse (String.ofList text)).mapError fun _ => .unreadable "the text is not JSON"
      else .error (.unreadable "unsupported JSONB format version")
    | [] => .error (.unreadable "unexpected end of data")

def recordColumn : String := "record"

/-- The JSON value in the record column. -/
def Row.value (row : Row) : Except Fault Json :=
  match row.lookup recordColumn with
  | some cell => cell.toJson?
  | none => .error (.columnMissing recordColumn)

/-- The record of a row. Its errors do not name the backend. -/
def Row.record (row : Row) : Except StoreError Record := do
  match ← row.value.mapError (Fault.toStoreError .fetch) with
  | .object record => return record
  | other => throw (.serialization .fetch ("Expected a JSON object per row, got " ++ other.render))

end QueryCriteria.Sql
