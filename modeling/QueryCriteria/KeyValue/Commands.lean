import QueryCriteria.Store.Command

/-!
Commands for key-value stores, which look up a key or scan the keys that begin with a text. Only a
condition on the identifier can become such a command, and only when there are no branches; all else
is left to be done in process.
-/
namespace QueryCriteria.KeyValue

inductive Command where
  | put (collection id : String) (record : Record)
  | get (collection id : String)
  /-- Every record, or those whose keys begin with a text. -/
  | scan (collection : String) (start : Option String)
  | delete (collection id : String)

/-- The collection that a command is about. -/
def Command.collection : Command → String
  | .put collection _ _ => collection
  | .get collection _ => collection
  | .scan collection _ => collection
  | .delete collection _ => collection

/-- A collection, and the attribute that identifies its records. -/
structure Collection where
  name : String
  idField : String

/-- The key of an identifier that is compared for equality; keys are texts. -/
def key? : Scalar → Option String
  | .text s => some s
  | .integer n => some (toString n.toInt)
  | _ => none

namespace Collection

/-- What the commands of the store can do for one filter. -/
inductive Lookup where
  | key (id : String)
  | keysFrom (start : String)

/-- The key that a filter asks for. -/
def keyLookup? (filter : Filter) : Option Lookup :=
  match filter.test with
  | .equal (some operand) => (key? operand).map .key
  | _ => none

/-- The beginning of the keys that a filter asks for. -/
def rangeLookup? (filter : Filter) : Option Lookup :=
  match filter.test with
  | .text .beginsWith start => some (.keysFrom start)
  | _ => none

/-- The first filter with a lookup, and the lookup. -/
def firstLookup? (lookup? : Filter → Option Lookup) (filters : Filters) : Option (Filter × Lookup) :=
  filters.findSome? fun filter => (lookup? filter).map (filter, ·)

/-- The filter that becomes a command; a single key is preferred to a range of keys. -/
def pushdown? (collection : Collection) (c : Criteria) : Option (Filter × Lookup) :=
  if c.branches.isEmpty then
    let filters := c.filters.filter (Filter.isOn collection.idField)
    (firstLookup? keyLookup? filters).or (firstLookup? rangeLookup? filters)
  else none

/--
The filters left over. A text as operand is met exactly by the keys, so the filter is dropped; an
integer has the key of the text with its digits, so the filter stays.
-/
def remaining (pushed : Filter) (filters : Filters) : Filters :=
  if pushed.value.text?.isSome then filters.filter fun filter => !filter.same pushed else filters

/-- The command and the remaining work for criteria. -/
def plan (collection : Collection) (c : Criteria) : QueryPlan Command :=
  match collection.pushdown? c with
  | some (filter, lookup) =>
    { command := match lookup with
        | .key id => .get collection.name id
        | .keysFrom start => .scan collection.name (some start)
      residual := .ofCriteria { c with filters := remaining filter c.filters } }
  | none => ⟨.scan collection.name none, .ofCriteria c⟩

/-- The commands of a repository over the collection. -/
def commands (collection : Collection) : CommandBuilder Command where
  idField := collection.idField
  upsert id record := .ok (.put collection.name id record)
  findById id := .ok (.get collection.name id)
  findAll := .ok (.scan collection.name none)
  matching c := .ok (collection.plan c)
  delete id := .ok (.delete collection.name id)

end Collection

end QueryCriteria.KeyValue
