import QueryCriteria.Json.Basic
import QueryCriteria.Text.Split

/-! Values that filters compare with: null, scalars, and lists of values. -/
namespace QueryCriteria

/-- A single value other than null. -/
inductive Scalar where
  | bool (b : Bool)
  | integer (n : Int64)
  | float (x : Binary64)
  | text (s : String)
deriving DecidableEq

namespace Scalar

/-- Floats are shown without exponent and without a final `.0`. -/
def floatLayout : Decimal.Layout where
  positional _ := true
  pointZero := false
  tie := .up

/-- The text of a float in messages; it has words for the values that are not finite. -/
def showFloat (x : Binary64) : String :=
  if x.isNaN then "NaN"
  else if x.isInfinite then (if x.negative then "-inf" else "inf")
  else floatLayout.render x

/-- The text of a scalar in messages. -/
def display : Scalar → String
  | .bool b => toString b
  | .integer n => toString n.toInt
  | .float x => showFloat x
  | .text s => s

/-- The JSON form. Floats that are not finite have none and become null. -/
def toJson : Scalar → Json
  | .bool b => .bool b
  | .integer n => .ofInt64 n
  | .float x => .ofBinary64 x
  | .text s => .text s

/-- Equality of values: that of numbers for floats, so NaN differs from itself. -/
def sameValue : Scalar → Scalar → Bool
  | .bool a, .bool b => a == b
  | .integer a, .integer b => a == b
  | .float x, .float y => x.sameValue y
  | .text s, .text t => s == t
  | _, _ => false

end Scalar

/-- A value as callers give it; lists may hold nulls and lists before they are checked. -/
inductive Value where
  | null
  | scalar (s : Scalar)
  | list (items : List Value)

/-- Why a value was rejected. -/
inductive ValueFault where
  | nestedList
  | object
  | nullMember
  | listExpected
  | textExpected
  | listGiven
  | listGivenToEquality
  | nullGiven
deriving DecidableEq, Repr

/-- The reason in messages. -/
def ValueFault.wording : ValueFault → String
  | .nestedList => "nested lists are not supported"
  | .object => "objects are not valid filter values"
  | .nullMember => "list members cannot be null"
  | .listExpected => "expects a list of values"
  | .textExpected => "expects a string value"
  | .listGiven => "does not accept a list"
  | .listGivenToEquality => "does not accept a list, use IN / NOT IN"
  | .nullGiven => "cannot compare against NULL"

namespace Value

def bool (b : Bool) : Value := .scalar (.bool b)

def integer (n : Int64) : Value := .scalar (.integer n)

def float (x : Binary64) : Value := .scalar (.float x)

def text (s : String) : Value := .scalar (.text s)

/-- An optional scalar; an absent one is null. -/
def ofOption : Option Scalar → Value
  | none => .null
  | some s => .scalar s

def isNull : Value → Bool
  | .null => true
  | _ => false

def isList : Value → Bool
  | .list _ => true
  | _ => false

/-- The text, if the value is one. -/
def text? : Value → Option String
  | .scalar (.text s) => some s
  | _ => none

mutual

/-- The text of a value in messages: members of a list are joined by commas. -/
def display : Value → String
  | .null => "NULL"
  | .scalar s => s.display
  | .list items => Text.join "," (displayAll items)

def displayAll : List Value → List String
  | [] => []
  | item :: rest => display item :: displayAll rest

end

mutual

def toJson : Value → Json
  | .null => .null
  | .scalar s => s.toJson
  | .list items => .array (toJsonAll items)

def toJsonAll : List Value → List Json
  | [] => []
  | item :: rest => toJson item :: toJsonAll rest

end

mutual

/-- Equality of values, member by member for lists. -/
def sameValue : Value → Value → Bool
  | .null, .null => true
  | .scalar a, .scalar b => a.sameValue b
  | .list a, .list b => sameValues a b
  | _, _ => false

def sameValues : List Value → List Value → Bool
  | [], [] => true
  | a :: as, b :: bs => sameValue a b && sameValues as bs
  | _, _ => false

end

/-- An integer beyond the signed range becomes the nearest double. -/
def ofNumber : Json.Number → Scalar
  | .integer n =>
    match n.toInt64? with
    | some small => .integer small
    | none => .float (.ofInt n.val)
  | .float x _ => .float x

/-- A member of a JSON list; lists in lists and objects are no values. -/
def ofJsonMember : Json → Except ValueFault Value
  | .null => .ok .null
  | .bool b => .ok (bool b)
  | .number n => .ok (.scalar (ofNumber n))
  | .text s => .ok (text s)
  | .array _ => .error .nestedList
  | .object _ => .error .object

/-- The value that a JSON value stands for. -/
def ofJson : Json → Except ValueFault Value
  | .array items => (items.mapM ofJsonMember).map .list
  | other => ofJsonMember other

end Value

end QueryCriteria
