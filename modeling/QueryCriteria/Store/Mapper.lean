import QueryCriteria.Json.Parser
import QueryCriteria.Json.Reader
import QueryCriteria.Store.Error

/-! Mapping of aggregates, the values of an application, to records and back. -/
namespace QueryCriteria

structure Mapper (α : Type) where
  toRecord : α → Except StoreError Record
  toAggregate : Record → Except StoreError α

/-- How aggregates of a type are written to JSON and read from it. -/
structure Codec (α : Type) where
  /-- The name of the type in messages. -/
  typeName : String
  /-- The JSON form, or why there is none. -/
  encode : α → Except String Json
  decode : Reader Json α

/-- JSON values themselves. -/
def Codec.json (typeName : String) : Codec Json := ⟨typeName, .ok, Json.resolve?⟩

/-- The mapper of a codec; only aggregates that are written as objects have records. -/
def Codec.mapper {α : Type} (codec : Codec α) : Mapper α where
  toRecord a :=
    match codec.encode a with
    | .ok (.object fields) => .ok fields
    | .ok other => .error (.serialization .save
        (codec.typeName ++ " must serialize to an object, got " ++ other.kind))
    | .error message => .error (.serialization .save message)
  toAggregate record :=
    match codec.decode (.object record) with
    | some a => .ok a
    | none => .error (.serialization .fetch ("Failed to decode " ++ codec.typeName))

end QueryCriteria
