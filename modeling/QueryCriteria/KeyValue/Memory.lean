import QueryCriteria.KeyValue.Inspect
import QueryCriteria.Store.Guard
import QueryCriteria.Store.Source

/-! A store of collections in memory. Collections and keys are ordered by their texts. -/
namespace QueryCriteria.KeyValue

/-- The collections of a store, each a map from keys to records. -/
abbrev Memory := Entries (Entries Record)

namespace Memory

/-- The records of a collection; one that was never written to has none. -/
def collection (memory : Memory) (name : String) : Entries Record :=
  (Entries.get? memory name).getD []

def size (memory : Memory) (name : String) : Nat :=
  (memory.collection name).length

def put (memory : Memory) (name id : String) (record : Record) : Memory :=
  Entries.insert memory name ((memory.collection name).insert id record)

def get? (memory : Memory) (name id : String) : Option Record :=
  (memory.collection name).get? id

/-- Removes a record; a collection that does not exist is not created. -/
def remove (memory : Memory) (name id : String) : Memory :=
  match Entries.get? memory name with
  | some records => Entries.insert memory name (records.erase id)
  | none => memory

/--
The records whose keys begin with a text. Their keys stand together: the first is the first key that
is not below the text, and the last is the one before the first key that does not begin with it.
-/
def range (records : Entries Record) (start : String) : List Record :=
  let behind := records.dropWhile fun entry => entry.1 < start
  (behind.takeWhile fun entry => start.toList.isPrefixOf entry.1.toList).map (·.2)

/-- The records of a scan, in the order of their keys. -/
def scan (memory : Memory) (name : String) : Option String → List Record
  | some start => range (memory.collection name) start
  | none => (memory.collection name).values

def backendName : String := "memory"

/-- A command that yields no records. -/
def execute (memory : Memory) : Command → Except StoreError Unit × Memory
  | .put name id record => (.ok (), memory.put name id record)
  | .delete name id => (.ok (), memory.remove name id)
  | other => (.error (.backendFailure .execute (other.inspect ++ " returns records; use fetch")), memory)

/-- The records that a command yields, if it is one that yields records. -/
def fetch (memory : Memory) (operation : StoreOperation) : Command → Except StoreError (List Record)
  | .get name id => .ok (memory.get? name id).toList
  | .scan name start => .ok (memory.scan name start)
  | other => .error (.backendFailure operation (other.inspect ++ " returns no records"))

/-- The store as a source of records. -/
def source (guard : CallGuard) : DataSource (StateM (World Memory)) Command where
  backend := backendName
  execute command := guard.run backendName .execute (Call.onServer fun memory => memory.execute command)
  fetchOne command := guard.run backendName .fetchOne (Call.onServer fun memory =>
    ((memory.fetch .fetchOne command).map List.head?, memory))
  fetch command := guard.run backendName .fetch (Call.onServer fun memory =>
    (memory.fetch .fetch command, memory))

end Memory

end QueryCriteria.KeyValue
