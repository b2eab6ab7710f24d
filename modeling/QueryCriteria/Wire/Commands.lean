import QueryCriteria.Dynamo.Commands
import QueryCriteria.Json.Lookup
import QueryCriteria.KeyValue.Commands
import QueryCriteria.Search.Commands
import QueryCriteria.Sql.Commands

/-! Commands of all backends written in JSON: the name of the command over its parts. -/
namespace QueryCriteria

/-- A name over its parts. -/
private def named (name : String) (parts : List (String × Json)) : Json :=
  .object [(name, .ofFields parts)]

namespace Sql

def Param.toJson : Param → Json
  | .null => .object [("Null", .null)]
  | .bool b => .object [("Bool", .bool b)]
  | .integer n => .object [("Integer", .ofInt64 n)]
  | .float x => .object [("Float", .ofBinary64 x)]
  | .text s => .object [("Text", .text s)]
  | .json value => .object [("Json", value)]

/-- A written parameter; what is not one is null. -/
def Param.ofJson (json : Json) : Param :=
  match json.object? with
  | some [("Bool", .bool b)] => .bool b
  | some [("Integer", value)] => (value.int64?.map .integer).getD .null
  | some [("Float", .number n)] => .float n.toBinary64
  | some [("Text", .text s)] => .text s
  | some [("Json", value)] => .json value
  | _ => .null

def Statement.toJson (statement : Statement) : Json :=
  .ofFields [("sql", .text statement.sql), ("params", .array (statement.params.map Param.toJson))]

def Statement.ofJson (json : Json) : Statement :=
  ⟨json.textAt "sql", (json.listAt "params").map Param.ofJson⟩

def Query.toJson (query : Query) : Json :=
  let text (tokens : Option (List Token)) : Json := .ofOption (fun t => .text (render t)) tokens
  .ofFields [("sql", .text (render query.tokens)), ("where", text query.whereTokens),
    ("order", text query.orderTokens), ("limit", .ofOption .ofUInt64 query.limit),
    ("offset", .ofOption .ofUInt64 query.offset), ("params", .array (query.params.map Param.toJson))]

end Sql

namespace Dynamo

def Query.toJson (query : Query) : Json :=
  .ofFields [("filter", .ofOption .text query.filter),
    ("names", .object (query.names.map fun entry => (entry.1, .text entry.2))),
    ("values", .object query.values)]

def Command.toJson : Command → Json
  | .putItem table item => named "PutItem" [("table", .text table), ("item", .object item)]
  | .getItem table key => named "GetItem" [("table", .text table), ("key", .object key)]
  | .deleteItem table key => named "DeleteItem" [("table", .text table), ("key", .object key)]
  | .scan table query => named "Scan" [("table", .text table), ("query", query.toJson)]

end Dynamo

def Search.Command.toJson : Search.Command → Json
  | .index name id document =>
    named "Index" [("index", .text name), ("id", .text id), ("document", .object document)]
  | .get name id => named "Get" [("index", .text name), ("id", .text id)]
  | .search name body => named "Search" [("index", .text name), ("body", body)]
  | .delete name id => named "Delete" [("index", .text name), ("id", .text id)]

namespace KeyValue

def Command.toJson : Command → Json
  | .put collection id record =>
    named "Put" [("collection", .text collection), ("id", .text id), ("record", .object record)]
  | .get collection id => named "Get" [("collection", .text collection), ("id", .text id)]
  | .scan collection start =>
    named "Scan" [("collection", .text collection), ("prefix", .ofOption .text start)]
  | .delete collection id => named "Delete" [("collection", .text collection), ("id", .text id)]

/-- A command of its parts, which `cmd` names. -/
def Command.ofJson? (json : Json) : Option Command :=
  let collection := json.textAt "collection"
  let id := json.textAt "id"
  match json.textAt "cmd" with
  | "put" => some (.put collection id (json.recordAt "record"))
  | "get" => some (.get collection id)
  | "delete" => some (.delete collection id)
  | "scan" => some (.scan collection (json.textAt? "prefix"))
  | _ => none

end KeyValue

end QueryCriteria
