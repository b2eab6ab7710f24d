import QueryCriteria.Dynamo.Source
import QueryCriteria.Json.Lookup
import QueryCriteria.Json.Parser

/-!
Requests and responses of DynamoDB as JSON. An attribute value is an object whose only field names the
type.
-/
namespace QueryCriteria.Dynamo

mutual

def Attribute.wire : Attribute → Json
  | .null flag => .object [("NULL", .bool flag)]
  | .bool b => .object [("BOOL", .bool b)]
  | .number digits => .object [("N", .text digits)]
  | .text s => .object [("S", .text s)]
  | .list items => .object [("L", .array (Attribute.wireItems items))]
  | .map fields => .object [("M", .object (Item.wire fields))]
  | .texts items => .object [("SS", .ofTexts items)]
  | .numbers items => .object [("NS", .ofTexts items)]
  | .binary encoded => .object [("B", .text encoded)]
  | .binaries encoded => .object [("BS", .ofTexts encoded)]
  | .unknown => .object []

def Attribute.wireItems : List Attribute → List Json
  | [] => []
  | item :: rest => Attribute.wire item :: Attribute.wireItems rest

def Item.wire : Item → Record
  | [] => []
  | (name, value) :: rest => (name, Attribute.wire value) :: Item.wire rest

end

/-- The letters of the base-64 code. -/
def isBase64Char (c : Char) : Bool :=
  c.isAlphanum || c == '+' || c == '/'

/-- Whether a text is in base 64: groups of four letters, the last one filled up with equals signs. -/
def isBase64 (s : String) : Bool :=
  let letters := s.toList.takeWhile isBase64Char
  let filling := s.toList.drop letters.length
  s.length % 4 == 0 && filling.length ≤ 2 && filling.all (· == '=')

/-- A list of texts. -/
private def textItems? (items : List Json) : Option (List String) :=
  items.mapM Json.text?

/-- The kinds of attributes that do not hold other ones. -/
private def flatAttribute? (type : String) (value : Json) : Option Attribute :=
  match type, value with
  | "NULL", .bool flag => some (.null flag)
  | "BOOL", .bool b => some (.bool b)
  | "N", .text digits => some (.number digits)
  | "S", .text s => some (.text s)
  | "SS", .array items => (textItems? items).map .texts
  | "NS", .array items => (textItems? items).map .numbers
  | "B", .text encoded => if isBase64 encoded then some (.binary encoded) else none
  | "BS", .array items => (textItems? items).bind fun texts =>
      if texts.all isBase64 then some (.binaries texts) else none
  | _, _ => if ["NULL", "BOOL", "N", "S", "SS", "NS", "B", "BS", "L", "M"].contains type then none
    else some .unknown

mutual

/-- The attribute that an object spells. -/
def Attribute.ofWire? : Json → Option Attribute
  | .object fields => Attribute.ofFields? none fields
  | _ => none

/-- The attribute among fields: exactly one, besides those that are null or name a shape. -/
def Attribute.ofFields? (found : Option Attribute) : List (String × Json) → Option Attribute
  | [] => found
  | (type, value) :: rest =>
    if value.isNull || type == "__type" then Attribute.ofFields? found rest
    else if found.isSome then none
    else do Attribute.ofFields? (some (← Attribute.ofTyped? type value)) rest

/-- The attribute of a type with a value. -/
def Attribute.ofTyped? (type : String) : Json → Option Attribute
  | .array items =>
    if type == "L" then (Attribute.ofWireItems? items).map .list else flatAttribute? type (.array items)
  | .object fields =>
    if type == "M" then (Item.ofWire? fields).map .map else flatAttribute? type (.object fields)
  | value => flatAttribute? type value

def Attribute.ofWireItems? : List Json → Option (List Attribute)
  | [] => some []
  | item :: rest => do return (← Attribute.ofWire? item) :: (← Attribute.ofWireItems? rest)

def Item.ofWire? : Record → Option Item
  | [] => some []
  | (name, value) :: rest => do return (name, ← Attribute.ofWire? value) :: (← Item.ofWire? rest)

end

/-- A part of a request that is left out when it is empty. -/
def optionalPart (name : String) (fields : Record) : List (String × Json) :=
  if fields.isEmpty then [] else [(name, .object fields)]

/-- The body of a request for a page. -/
def ScanRequest.wire (request : ScanRequest) : Json :=
  .ofFields ([("TableName", .text request.table)]
    ++ (request.filter.map fun filter => ("FilterExpression", Json.text filter)).toList
    ++ optionalPart "ExpressionAttributeNames" (request.names.map fun entry => (entry.1, .text entry.2))
    ++ optionalPart "ExpressionAttributeValues" (Item.wire request.values)
    ++ (request.start.map fun key => ("ExclusiveStartKey", Json.object (Item.wire key))).toList)

/-- The body of a request about one item, which stands under a name. -/
def itemRequest (name table : String) (item : Item) : Json :=
  .ofFields [("TableName", .text table), (name, .object (Item.wire item))]

/-- A response: its status, and its body unless that is not JSON. -/
structure Response where
  status : Nat
  body : Option Json

/-- The code of an error: what follows the hash, and stands before a colon. -/
def Response.errorCode? (response : Response) : Option String := do
  let body ← response.body
  let type ← (body.textAt? "code").or (body.textAt? "__type")
  let word := type.toList.takeWhile (· != ':')
  return String.ofList (if word.contains '#' then (word.dropWhile (· != '#')).drop 1 else word)

/-- An item under a name; there may be none. -/
def itemAt? (body : Json) (name : String) : Option (Option Item) :=
  match body.present? name with
  | some (.object fields) => (Item.ofWire? fields).map some
  | some _ => none
  | none => some none

/-- The items under a name. -/
def itemsAt? (body : Json) (name : String) : Option (List Item) :=
  match body.present? name with
  | some (.array items) => items.mapM fun
    | .object fields => Item.ofWire? fields
    | _ => none
  | some _ => none
  | none => some []

/-- What is read from the body of a response with a status of success. -/
def Response.read {α : Type} (response : Response) (read : Json → Option α) : Except ServiceFault α :=
  if 200 ≤ response.status ∧ response.status < 300 then
    match response.body with
    | some (.object fields) =>
      match read (.object fields) with
      | some a => .ok a
      | none => .error (.rejected none "the response has not the expected form")
    | _ => .error (.rejected none "the response is not a JSON object")
  else .error (.rejected response.errorCode? "the service refused the request")

/-- A count, if it is there, is a whole number of 32 bits. -/
def isCount (value : Json) : Bool :=
  match value with
  | .null => true
  | .number (.integer n) => -2 ^ 31 ≤ n.val ∧ n.val < 2 ^ 31
  | .number (.float x _) =>
    let (num, den) := x.ratio
    num % den == 0 && num / den < 2 ^ 31
  | _ => false

/-- Whether fields are objects, if they are there. -/
def areObjects (body : Json) (names : List String) : Bool :=
  names.all fun name => (body.present? name).all fun value => value.object?.isSome

/-- A page of a scan. Its statistics must have their form, and are not read further. -/
def readPage (body : Json) : Option Page := do
  guard (areObjects body ["ConsumedCapacity"])
  guard (["Count", "ScannedCount"].all fun name => isCount (body.fieldOrNull name))
  return ⟨← itemsAt? body "Items", ← itemAt? body "LastEvaluatedKey"⟩

/-- The response to a request for an item. -/
def readItem (body : Json) : Option (Option Item) := do
  guard (areObjects body ["ConsumedCapacity"])
  itemAt? body "Item"

/-- The response to a request that changes an item, which may show what it was. -/
def readChange (body : Json) : Option Unit := do
  guard (areObjects body ["ConsumedCapacity", "ItemCollectionMetrics"])
  let _ ← itemAt? body "Attributes"

end QueryCriteria.Dynamo
