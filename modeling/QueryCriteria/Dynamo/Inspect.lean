import QueryCriteria.Dynamo.Commands
import QueryCriteria.Text.Inspect

/-! Commands for DynamoDB as they are shown to programmers. -/
namespace QueryCriteria.Dynamo

def Query.inspect (query : Query) : String :=
  Inspect.labelled "DynamoDbQuery" [
    ("filter_expression", Inspect.optional Inspect.text query.filter),
    ("expression_attribute_names",
      Inspect.entries (query.names.map fun entry => (entry.1, Inspect.text entry.2))),
    ("expression_attribute_values", Inspect.record query.values)]

def Command.inspect : Command → String
  | .putItem table item =>
    Inspect.labelled "PutItem" [("table", Inspect.text table), ("item", Inspect.record item)]
  | .getItem table key =>
    Inspect.labelled "GetItem" [("table", Inspect.text table), ("key", Inspect.record key)]
  | .deleteItem table key =>
    Inspect.labelled "DeleteItem" [("table", Inspect.text table), ("key", Inspect.record key)]
  | .scan table query =>
    Inspect.labelled "Scan" [("table", Inspect.text table), ("query", query.inspect)]

end QueryCriteria.Dynamo
