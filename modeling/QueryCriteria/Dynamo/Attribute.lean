import QueryCriteria.Decimal.Numeral
import QueryCriteria.Dynamo.Query

/-!
Attribute values, as DynamoDB stores them. Numbers are texts of digits; sets and binary values have no
counterpart among JSON values, except that sets of texts and numbers are read as arrays.
-/
namespace QueryCriteria.Dynamo

inductive Attribute where
  | null (flag : Bool)
  | bool (b : Bool)
  | number (digits : String)
  | text (s : String)
  | list (items : List Attribute)
  | map (fields : List (String × Attribute))
  | texts (items : List String)
  | numbers (items : List String)
  | binary (encoded : String)
  | binaries (encoded : List String)
  /-- A type that is not known. -/
  | unknown
deriving Inhabited

/-- The attributes of a stored record. -/
abbrev Item := Entries Attribute

mutual

/-- The attribute that stores a JSON value. -/
def Attribute.ofJson : Json → Attribute
  | .null => .null true
  | .bool b => .bool b
  | .number n => .number n.render
  | .text s => .text s
  | .array items => .list (Attribute.ofItems items)
  | .object fields => .map (Item.ofRecord fields)

def Attribute.ofItems : List Json → List Attribute
  | [] => []
  | item :: rest => Attribute.ofJson item :: Attribute.ofItems rest

def Item.ofRecord : Record → Item
  | [] => []
  | (name, value) :: rest => (name, Attribute.ofJson value) :: Item.ofRecord rest

end

/-- An error at reading what was stored. -/
private def unreadableAttribute (message : String) : StoreError :=
  (StoreError.serialization .fetch message).withBackend backendName

/-- A number: an integer if it fits 64 bits with a sign, else the nearest finite double. -/
def readNumber (digits : String) : Except StoreError Json :=
  let refused := unreadableAttribute ("'" ++ digits ++ "' is not a representable number")
  let integer := (Decimal.readInteger? digits.toList).filter fun n => -2 ^ 63 ≤ n ∧ n < 2 ^ 63
  match integer with
  | some n => .ok (.ofInt64 (Int64.ofInt n))
  | none =>
    match Decimal.readFloat? digits.toList with
    | some x => if x.isFinite then .ok (.ofBinary64 x) else .error refused
    | none => .error refused

mutual

/-- The JSON value that an attribute stores. -/
def Attribute.toJson : Attribute → Except StoreError Json
  | .null _ => .ok .null
  | .bool b => .ok (.bool b)
  | .text s => .ok (.text s)
  | .number digits => readNumber digits
  | .texts items => .ok (.array (items.map .text))
  | .numbers items => (items.mapM readNumber).map .array
  | .list items => (Attribute.toItems items).map .array
  | .map fields => (Item.toRecord fields).map .object
  | .binary _ | .binaries _ | .unknown => .error (unreadableAttribute "Unsupported attribute value")

def Attribute.toItems : List Attribute → Except StoreError (List Json)
  | [] => .ok []
  | item :: rest => do return (← Attribute.toJson item) :: (← Attribute.toItems rest)

/--
The record that an item stores. The attributes of an item have no order of their own. Here they are read
by their names: of two that cannot be read the one with the lesser name gives the error, where either of
them may.
-/
def Item.toRecord : Item → Except StoreError Record
  | [] => .ok []
  | (name, value) :: rest => do return (name, ← Attribute.toJson value) :: (← Item.toRecord rest)

end

end QueryCriteria.Dynamo
