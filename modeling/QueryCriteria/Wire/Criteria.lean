import QueryCriteria.Criteria.Request
import QueryCriteria.Json.Lookup
import QueryCriteria.Matching.Residual

/-!
Criteria written in JSON for tools: trees in a short form, values with tags, which can stand for
more than JSON has, and descriptions that show everything about a value, a filter or an order.
-/
namespace QueryCriteria.Wire

/-- Why a written form is not accepted. -/
inductive Fault where
  /-- The form itself is wrong. -/
  | malformed
  /-- The form is right, but it does not stand for valid criteria. -/
  | criteria (error : CriteriaError)

/-- The containers of written trees and values nest at most this deep. -/
def nestingLimit : Nat := 10000

def valid {α : Type} (result : Except CriteriaError α) : Except Fault α :=
  result.mapError .criteria

def required {α : Type} : Option α → Except Fault α
  | some a => .ok a
  | none => .error .malformed

/-- A float: a number, or the name of a value that is not finite. -/
def readFloat? : Json → Option Binary64
  | .text "NaN" => some .nan
  | .text "inf" => some (.infinity false)
  | .text "-inf" => some (.infinity true)
  | .number n => some n.toBinary64
  | _ => none

/-- A value with its tag, nested at most so deep. -/
def readTagged (json : Json) : Nat → Except Fault Value
  | 0 => .error .malformed
  | depth + 1 =>
    let operand := json.fieldOrNull "v"
    match json.textAt "t", operand with
    | "null", _ => .ok .null
    | "bool", .bool b => .ok (.bool b)
    | "int", _ => (required operand.int64?).map .integer
    | "str", .text s => .ok (.text s)
    | "float", _ => (required (readFloat? operand)).map .float
    | "list", .array items => (items.mapM (readTagged · depth)).map .list
    | _, _ => .error .malformed

def readValue (json : Json) : Except Fault Value :=
  readTagged json nestingLimit

/-- A filter that nobody has checked. -/
def readInput (json : Json) : FilterInput :=
  ⟨json.textAt "field", json.textAt "operator", json.fieldOrNull "value"⟩

/-- A filter with a tagged or a plain value. -/
def readFilter (json : Json) : Except Fault Filter := do
  match json.field? "typed" with
  | some tagged => valid (Filter.create (json.textAt "field") (json.textAt "operator") (← readValue tagged))
  | none => valid (Filter.ofInput (readInput json))

/-- A direction; any other word is no direction. -/
def readOrderType : String → OrderType
  | "asc" => .asc
  | "desc" => .desc
  | _ => .none

/-- An order, which may have a direction without fields. -/
def readOrder (json : Json) : Except Fault Order := do
  let fields ← match json.textAt? "by" with
    | some text => valid (Order.parseFields text)
    | none => .ok []
  return ⟨fields, readOrderType (json.textAt "type")⟩

/-- A tree nested at most so deep; of several faults the first one counts. -/
def readTree (json : Json) : Nat → Except Fault Criteria
  | 0 => .error .malformed
  | depth + 1 => do
    let filters ← (json.listAt "filters").mapM readFilter
    let order ← match json.present? "order" with
      | some order => readOrder order
      | none => .ok .none
    let branches ← (json.listAt "or").mapM (readTree · depth)
    return ⟨filters, order, json.uint64At? "limit", json.uint64At? "offset", branches⟩

def readCriteria (json : Json) : Except Fault Criteria :=
  readTree json nestingLimit

/-- The parts of a tree that a written form names take the place of those it has. -/
def override (c : Criteria) (json : Json) : Except Fault Criteria := do
  let filters ← match json.present? "filters" with
    | some _ => (json.listAt "filters").mapM readFilter
    | none => .ok c.filters
  let order ← match json.present? "order" with
    | some order => readOrder order
    | none => .ok c.order
  let branches ← match json.present? "or" with
    | some _ => (json.listAt "or").mapM readCriteria
    | none => .ok c.branches
  let bound (name : String) (old : Option UInt64) : Option UInt64 :=
    match json.field? name with
    | some value => value.uint64?
    | none => old
  return ⟨filters, order, bound "limit" c.limit, bound "offset" c.offset, branches⟩

def kindName : Value → String
  | .null => "Null"
  | .scalar (.bool _) => "Bool"
  | .scalar (.integer _) => "Integer"
  | .scalar (.float _) => "Float"
  | .scalar (.text _) => "String"
  | .list _ => "List"

private def described (value : Value) (items : Json) : Json :=
  .ofFields [("type", .text (kindName value)), ("display", .text value.display),
    ("json", value.toJson), ("is_null", .bool value.isNull), ("items", items)]

mutual

/-- Everything about a value. -/
def describe : Value → Json
  | .list items => described (.list items) (.array (describeAll items))
  | other => described other .null

def describeAll : List Value → List Json
  | [] => []
  | value :: rest => describe value :: describeAll rest

end

def describeFilter (filter : Filter) : Json :=
  .ofFields [("field", .text filter.field.text), ("operator", .text filter.operator.token),
    ("value", describe filter.value), ("display", .text filter.display)]

def describeOrder (order : Order) : Json :=
  .ofFields [("order", order.toJson), ("fields", .ofTexts (order.fields.map FieldName.text)),
    ("by_empty", .bool order.fields.isEmpty), ("type", .text order.type.text),
    ("has_order", .bool order.isOrdered)]

def describeOperator (operator : Operator) : Json :=
  .ofFields [("token", .text operator.token), ("name", .text operator.name),
    ("takes_list", .bool operator.takesList), ("takes_text", .bool operator.takesText),
    ("is_range", .bool operator.isRange)]

def describeResidual (residual : Residual) : Json :=
  .ofFields [("criteria", .ofOption Criteria.toJson residual.criteria),
    ("order", residual.order.toJson), ("offset", .ofOption .ofUInt64 residual.offset),
    ("limit", .ofOption .ofUInt64 residual.limit), ("is_empty", .bool residual.isEmpty)]

end QueryCriteria.Wire
