import QueryCriteria.Sql.Condition
import QueryCriteria.Store.Command

/-! SQL statements for one table. Rows are read as JSON, in a single column named `record`. -/
namespace QueryCriteria.Sql

/-- The clauses of a criteria tree. -/
structure Query where
  condition : Option Condition
  order : Order
  limit : Option UInt64
  offset : Option UInt64

namespace Query

def ofCriteria (c : Criteria) : Query :=
  ⟨Condition.ofCriteria c, c.order, c.limit, c.offset⟩

/-- The condition without its keyword. -/
def whereTokens (query : Query) : Option (List Token) :=
  query.condition.map Condition.tokens

/-- The sort list of one direction. -/
def sortTokens (fields : List FieldName) (direction : String) : Option (List Token) :=
  if fields.isEmpty then none
  else some (separated ", " (fields.map fun field => [.identifier field.text, .fixed (" " ++ direction)]))

/-- The sort list without its keyword. -/
def orderTokens (query : Query) : Option (List Token) :=
  match query.order.type with
  | .none => none
  | .asc => sortTokens query.order.fields "ASC"
  | .desc => sortTokens query.order.fields "DESC"

def clause (keyword : String) : Option (List Token) → List Token
  | some tokens => .fixed (" " ++ keyword ++ " ") :: tokens
  | none => []

def number (n : UInt64) : List Token :=
  [.fixed (toString n.toNat)]

/-- All clauses that are present, each behind a blank. -/
def tokens (query : Query) : List Token :=
  clause "WHERE" query.whereTokens ++ clause "ORDER BY" query.orderTokens
    ++ clause "LIMIT" (query.limit.map number) ++ clause "OFFSET" (query.offset.map number)

/-- The values that the condition binds. -/
def params (query : Query) : List Param :=
  Sql.params (query.whereTokens.getD [])

end Query

/-- A complete statement with the values of its places. -/
structure Statement where
  sql : String
  params : List Param

def Statement.ofTokens (tokens : List Token) : Statement :=
  ⟨render tokens, Sql.params tokens⟩

/-- A table, and the column that identifies its rows. -/
structure Table where
  name : String
  idField : String

namespace Table

def select (table : Table) : List Token :=
  .fixed "SELECT to_jsonb(t) AS record FROM " :: tableTokens table.name ++ [.fixed " AS t"]

/-- The rows with an identifier, which is compared as a text. -/
def idCondition (table : Table) (id : String) : List Token :=
  [.fixed " WHERE ", .identifier table.idField, .fixed "::text = ", .param (.text id)]

/-- What happens to the columns of a row that is there already. -/
def conflictAction (table : Table) (record : Record) : List Token :=
  match record.keys.filter (· ≠ table.idField) with
  | [] => [.fixed "DO NOTHING"]
  | columns =>
    .fixed "DO UPDATE SET " :: separated ", " (columns.map fun column =>
      [.identifier column, .fixed " = EXCLUDED.", .identifier column])

def upsert (table : Table) (record : Record) : List Token :=
  [.fixed "INSERT INTO "] ++ tableTokens table.name
    ++ [.fixed " SELECT * FROM jsonb_populate_record(NULL::"] ++ tableTokens table.name
    ++ [.fixed ", ", .param (.json (.object record)), .fixed ") ON CONFLICT (",
      .identifier table.idField, .fixed ") "]
    ++ conflictAction table record

def delete (table : Table) (id : String) : List Token :=
  .fixed "DELETE FROM " :: tableTokens table.name ++ idCondition table id

/-- The statements of a repository over the table. -/
def commands (table : Table) : CommandBuilder Statement where
  idField := table.idField
  upsert _ record := .ok (.ofTokens (upsert table record))
  findById id := .ok (.ofTokens (select table ++ idCondition table id))
  findAll := .ok (.ofTokens (select table))
  matching c := .ok (.native (.ofTokens (select table ++ (Query.ofCriteria c).tokens)))
  delete id := .ok (.ofTokens (delete table id))

end Table

end QueryCriteria.Sql
