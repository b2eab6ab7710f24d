import QueryCriteria.Criteria.Field

/-!
Sort orders. Being unordered is an order type of its own: it differs from ascending by no fields,
although neither changes the order of records.
-/
namespace QueryCriteria

inductive OrderType where
  | asc
  | desc
  | none
deriving DecidableEq, Repr

namespace OrderType

def text : OrderType → String
  | .asc => "asc"
  | .desc => "desc"
  | .none => "none"

/-- One of the two directions, in any case and with blanks around it. -/
def parse (s : String) : Except CriteriaError OrderType :=
  match (Text.trim s).map Char.toLower with
  | "asc" => .ok .asc
  | "desc" => .ok .desc
  | _ => .error (.invalidOrderType s)

end OrderType

/-- Fields to sort by, the most important first, and a direction. -/
structure Order where
  fields : List FieldName
  type : OrderType
deriving DecidableEq

namespace Order

/-- The order that leaves records as they are. -/
def none : Order := ⟨[], .none⟩

/-- Field names between commas; none of them may be blank. -/
def parseFields (s : String) : Except CriteriaError (List FieldName) :=
  (Text.split ',' s).mapM FieldName.parse

/-- The field names joined by commas. -/
def fieldsText (order : Order) : String :=
  Text.join "," (order.fields.map FieldName.text)

def ofText (type : OrderType) (s : String) : Except CriteriaError Order := do
  return ⟨← parseFields s, type⟩

/-- Whether the order has a direction. -/
def isOrdered (order : Order) : Bool :=
  order.type != .none

/-- Checks the sort fields, in order, against the allowed ones. -/
def checkFields (allowed : List String) (order : Order) : Except CriteriaError Unit :=
  order.fields.forM fun field => ensureAllowed .orderBy allowed field.text

/-- A text that is not blank. -/
def present (s : Option String) : Option String :=
  s.filter fun s => Text.trim s != ""

/-- The direction that a caller asks for; a missing one is ascending. -/
def direction (type : Option String) : Except CriteriaError OrderType :=
  match present type with
  | some text => OrderType.parse text
  | Option.none => .ok .asc

/-- The order that a caller asks for. Without sort fields there is none, whatever the direction says. -/
def create (fields type : Option String) (allowed : Option (List String)) :
    Except CriteriaError Order :=
  match present fields with
  | Option.none => .ok none
  | some text => do
    let fields ← parseFields text
    if let some allowed := allowed then checkFields allowed ⟨fields, .none⟩
    return ⟨fields, ← direction type⟩

end Order

end QueryCriteria
