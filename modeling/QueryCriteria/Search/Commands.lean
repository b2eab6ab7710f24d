import QueryCriteria.Search.Query
import QueryCriteria.Store.Command

/-! Search requests for one index: pages inside the result window, bodies, and commands. -/
namespace QueryCriteria.Search

def backendName : String := "elasticsearch"

/-- The window of results that an index returns unless another one is configured. -/
def defaultWindow : UInt64 := 10000

/-- A part of the results: how many are skipped, and how many are returned. -/
structure Page where
  start : UInt64
  size : UInt64

/-- A sum that stays at the largest 64-bit number when it would exceed it. -/
private def saturatingAdd (a b : UInt64) : Nat :=
  min (a.toNat + b.toNat) (2 ^ 64 - 1)

/-- The page that criteria ask for. Without a limit it goes to the end of the window. -/
def page (window : UInt64) (limit offset : Option UInt64) : Except StoreError Page :=
  let start := offset.getD 0
  if 0 < start && window ≤ start then
    .error (.inexpressible backendName ("Offset " ++ toString start.toNat
      ++ " is outside the result window of " ++ toString window.toNat))
  else
    match limit with
    | none => .ok ⟨start, window - start⟩
    | some limit =>
      if window.toNat < saturatingAdd start limit then
        .error (.inexpressible backendName ("Offset " ++ toString start.toNat ++ " plus limit "
          ++ toString limit.toNat ++ " exceeds the result window of " ++ toString window.toNat))
      else .ok ⟨start, limit⟩

/-- The sort list of an order. -/
def sortClause (order : Order) : Json :=
  let direction := if order.type == .desc then "desc" else "asc"
  .array (order.fields.map fun field =>
    .object [(field.text, .object [("order", .text direction)])])

/-- The body of a search request. -/
def body (window : UInt64) (c : Criteria) : Except StoreError Json := do
  let page ← page window c.limit c.offset
  let start := if c.offset.isSome then [("from", .ofUInt64 page.start)] else []
  let sort := if c.order.isOrdered then [("sort", sortClause c.order)] else []
  return .object (start ++ [("query", (Query.ofCriteria c).toJson), ("size", .ofUInt64 page.size)]
    ++ sort)

inductive Command where
  | index (index id : String) (document : Record)
  | get (index id : String)
  | search (index : String) (body : Json)
  | delete (index id : String)

/-- An index, the field with the identifiers of documents, and the window of results. -/
structure Index where
  name : String
  idField : String
  window : UInt64

/-- The requests of a repository over the index. -/
def Index.commands (index : Index) : CommandBuilder Command where
  idField := index.idField
  upsert id record := .ok (.index index.name id record)
  findById id := .ok (.get index.name id)
  findAll := do return .search index.name (← body index.window .all)
  matching c := do return .native (.search index.name (← body index.window c))
  delete id := .ok (.delete index.name id)

end QueryCriteria.Search
