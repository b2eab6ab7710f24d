import QueryCriteria.Json.Basic

/-! Fields of JSON objects under lenient reading: what is missing or of another kind has a default. -/
namespace QueryCriteria.Json

/-- A field that is neither missing nor null. -/
def present? (json : Json) (name : String) : Option Json :=
  match json.field? name with
  | some .null => none
  | other => other

/-- A field; a missing one is null. -/
def fieldOrNull (json : Json) (name : String) : Json :=
  (json.field? name).getD .null

def textAt? (json : Json) (name : String) : Option String :=
  (json.field? name).bind text?

def textAt (json : Json) (name : String) : String :=
  (json.textAt? name).getD ""

def listAt (json : Json) (name : String) : List Json :=
  match json.field? name with
  | some (.array items) => items
  | _ => []

/-- The texts of a list; a missing or null list is none. -/
def textsAt? (json : Json) (name : String) : Option (List String) :=
  (json.present? name).map fun
    | .array items => items.filterMap text?
    | _ => []

def textsAt (json : Json) (name : String) : List String :=
  (json.textsAt? name).getD []

def recordAt (json : Json) (name : String) : Record :=
  ((json.field? name).bind object?).getD []

def recordsAt (json : Json) (name : String) : List Record :=
  (json.listAt name).filterMap object?

def uint64At? (json : Json) (name : String) : Option UInt64 :=
  (json.field? name).bind uint64?

def int64At? (json : Json) (name : String) : Option Int64 :=
  (json.field? name).bind int64?

def flagAt (json : Json) (name : String) : Bool :=
  match json.field? name with
  | some (.bool b) => b
  | _ => false

/-- An object of fields in any order. -/
def ofFields (fields : List (String × Json)) : Json :=
  .object (Entries.ofList fields)

def ofTexts (texts : List String) : Json :=
  .array (texts.map .text)

def ofNat (n : Nat) : Json :=
  .ofUInt64 (UInt64.ofNat n)

def ofRecords (records : List Record) : Json :=
  .array (records.map .object)

end QueryCriteria.Json
