import QueryCriteria.Search.Commands
import QueryCriteria.Text.Inspect

/-! Commands for a search index as they are shown to programmers. -/
namespace QueryCriteria.Search

def Command.inspect : Command → String
  | .index name id document =>
    Inspect.labelled "Index" [("index", Inspect.text name), ("id", Inspect.text id),
      ("document", Inspect.record document)]
  | .get name id => Inspect.labelled "Get" [("index", Inspect.text name), ("id", Inspect.text id)]
  | .search name body =>
    Inspect.labelled "Search" [("index", Inspect.text name), ("body", Inspect.json body)]
  | .delete name id =>
    Inspect.labelled "Delete" [("index", Inspect.text name), ("id", Inspect.text id)]

end QueryCriteria.Search
