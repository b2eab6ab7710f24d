import QueryCriteria.KeyValue.Commands
import QueryCriteria.Text.Inspect

/-! Key-value commands as they are shown to programmers. -/
namespace QueryCriteria.KeyValue

def Command.inspect : Command → String
  | .put collection id record =>
    Inspect.labelled "Put" [("collection", Inspect.text collection), ("id", Inspect.text id),
      ("record", Inspect.record record)]
  | .get collection id =>
    Inspect.labelled "Get" [("collection", Inspect.text collection), ("id", Inspect.text id)]
  | .scan collection start =>
    Inspect.labelled "Scan" [("collection", Inspect.text collection),
      ("prefix", Inspect.optional Inspect.text start)]
  | .delete collection id =>
    Inspect.labelled "Delete" [("collection", Inspect.text collection), ("id", Inspect.text id)]

/-- The builder of the commands of a collection. -/
def Collection.inspect (collection : Collection) : String :=
  Inspect.labelled "KeyValueCommandBuilder" [("collection", Inspect.text collection.name),
    ("id_field", Inspect.text collection.idField)]

end QueryCriteria.KeyValue
