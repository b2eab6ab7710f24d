import QueryCriteria.Criteria.Value

/-!
SQL text as a list of tokens. A parameter is a token that carries its value; rendering numbers the
parameters from left to right, so numbers and values correspond by construction. Conditions that bind
their values while they are written come out the same (`writing_ofCriteria`).
-/
namespace QueryCriteria.Sql

/-- A value bound to a statement. -/
inductive Param where
  | null
  | bool (b : Bool)
  | integer (n : Int64)
  | float (x : Binary64)
  | text (s : String)
  | json (value : Json)

namespace Param

def ofScalar : Scalar → Param
  | .bool b => .bool b
  | .integer n => .integer n
  | .float x => .float x
  | .text s => .text s

/-- A list is bound in its JSON form. -/
def ofValue : Value → Param
  | .null => .null
  | .scalar s => ofScalar s
  | .list items => .json (Value.list items).toJson

end Param

/-- A name between double quotes; quotes in the name are doubled. -/
def quoteIdentifier (name : String) : String :=
  "\"" ++ String.ofList (name.toList.flatMap fun c => if c == '"' then ['"', '"'] else [c]) ++ "\""

/-- The parts of a qualified name stand between points. -/
def tableParts (name : String) : List String :=
  Text.split '.' name

/-- A table name with each of its parts quoted. -/
def quoteTable (name : String) : String :=
  Text.join "." ((tableParts name).map quoteIdentifier)

inductive Token where
  /-- Text of the statement's own. -/
  | fixed (s : String)
  /-- A quoted name. -/
  | identifier (name : String)
  /-- A place for a bound value. -/
  | param (value : Param)

/-- The values bound, in the order of their places. -/
def params (tokens : List Token) : List Param :=
  tokens.filterMap fun
    | .param value => some value
    | _ => none

/-- The text of tokens whose first parameter has the given number. -/
def renderFrom : Nat → List Token → String
  | _, [] => ""
  | n, .fixed s :: rest => s ++ renderFrom n rest
  | n, .identifier name :: rest => quoteIdentifier name ++ renderFrom n rest
  | n, .param _ :: rest => "$" ++ toString n ++ renderFrom (n + 1) rest

/-- The text of tokens; parameters count from one. -/
def render (tokens : List Token) : String :=
  renderFrom 1 tokens

/-- Lists of tokens with a separator between each two. -/
def separated (sep : String) : List (List Token) → List Token
  | [] => []
  | [tokens] => tokens
  | tokens :: rest => tokens ++ .fixed sep :: separated sep rest

/-- A table name as tokens. -/
def tableTokens (name : String) : List Token :=
  separated "." ((tableParts name).map fun part => [.identifier part])

end QueryCriteria.Sql
