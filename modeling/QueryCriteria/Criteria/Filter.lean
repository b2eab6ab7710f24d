import QueryCriteria.Criteria.Field

/-!
Filters: a field and a test of its value. A test holds exactly the kind of operand that its operator
takes, so the shape of an operand is checked once, when the test is built.
-/
namespace QueryCriteria

/-- The order comparisons. -/
inductive Relation where
  | greaterThan
  | greaterEqual
  | lessThan
  | lessEqual
deriving DecidableEq, Repr

def Relation.operator : Relation → Operator
  | .greaterThan => .greaterThan
  | .greaterEqual => .greaterEqual
  | .lessThan => .lessThan
  | .lessEqual => .lessEqual

/-- The comparisons with a text. -/
inductive TextTest where
  | contains
  | beginsWith
  | like
  | notLike
deriving DecidableEq, Repr

def TextTest.operator : TextTest → Operator
  | .contains => .contains
  | .beginsWith => .beginsWith
  | .like => .like
  | .notLike => .notLike

/-- An operator with its operand. A missing operand of an equality is null. -/
inductive Test where
  | equal (operand : Option Scalar)
  | notEqual (operand : Option Scalar)
  | range (relation : Relation) (operand : Scalar)
  | text (test : TextTest) (operand : String)
  | isIn (members : List Scalar)
  | notIn (members : List Scalar)
deriving DecidableEq

namespace Test

def operator : Test → Operator
  | .equal _ => .equal
  | .notEqual _ => .notEqual
  | .range relation _ => relation.operator
  | .text test _ => test.operator
  | .isIn _ => .isIn
  | .notIn _ => .notIn

/-- The operand as a value. -/
def value : Test → Value
  | .equal operand => .ofOption operand
  | .notEqual operand => .ofOption operand
  | .range _ operand => .scalar operand
  | .text _ operand => .text operand
  | .isIn members => .list (members.map .scalar)
  | .notIn members => .list (members.map .scalar)

private def equality (test : Option Scalar → Test) : Value → Except ValueFault Test
  | .null => .ok (test none)
  | .scalar s => .ok (test (some s))
  | .list _ => .error .listGivenToEquality

private def comparison (relation : Relation) : Value → Except ValueFault Test
  | .scalar s => .ok (.range relation s)
  | .null => .error .nullGiven
  | .list _ => .error .listGiven

private def textual (test : TextTest) (value : Value) : Except ValueFault Test :=
  match value.text? with
  | some s => .ok (.text test s)
  | none => .error .textExpected

private def member : Value → Except ValueFault Scalar
  | .scalar s => .ok s
  | .null => .error .nullMember
  | .list _ => .error .nestedList

/-- A single value counts as a list of one. A list in the list is reported before a null. -/
private def membership (test : List Scalar → Test) : Value → Except ValueFault Test
  | .list items => if items.any Value.isList then .error .nestedList else (items.mapM member).map test
  | .scalar s => .ok (test [s])
  | .null => .error .listExpected

/-- The test of an operator with a value, if the value suits the operator. -/
def ofValue : Operator → Value → Except ValueFault Test
  | .equal => equality .equal
  | .notEqual => equality .notEqual
  | .greaterThan => comparison .greaterThan
  | .greaterEqual => comparison .greaterEqual
  | .lessThan => comparison .lessThan
  | .lessEqual => comparison .lessEqual
  | .contains => textual .contains
  | .beginsWith => textual .beginsWith
  | .like => textual .like
  | .notLike => textual .notLike
  | .isIn => membership .isIn
  | .notIn => membership .notIn

end Test

/-- A condition on one field. -/
structure Filter where
  field : FieldName
  test : Test
deriving DecidableEq

/-- A filter as callers send it: nothing is checked yet. -/
structure FilterInput where
  field : String
  operator : String
  value : Json

namespace Filter

def operator (filter : Filter) : Operator :=
  filter.test.operator

def value (filter : Filter) : Value :=
  filter.test.value

/-- Whether the filter applies to the field. -/
def isOn (field : String) (filter : Filter) : Bool :=
  filter.field.text == field

/-- The same test on another field. -/
def renamed (filter : Filter) (field : FieldName) : Filter :=
  { filter with field }

/-- `field operator value`. -/
def display (filter : Filter) : String :=
  filter.field.text ++ " " ++ filter.operator.token ++ " " ++ filter.value.display

/-- Same field, same operator, and equal values. -/
def same (a b : Filter) : Bool :=
  a.field == b.field && a.operator == b.operator && a.value.sameValue b.value

/-- Equality of two lists of filters, one by one. -/
def sameAll (as bs : List Filter) : Bool :=
  as.length == bs.length && (as.zip bs).all fun pair => pair.1.same pair.2

/-- A filter of checked parts; the value must suit the operator. -/
def new (field : FieldName) (operator : Operator) (value : Value) : Except CriteriaError Filter :=
  match Test.ofValue operator value with
  | .ok test => .ok ⟨field, test⟩
  | .error fault => .error (.invalidValue field.text operator fault)

/-- The operator that a text spells. -/
def parseOperator (s : String) : Except CriteriaError Operator :=
  match Operator.parse? s with
  | some op => .ok op
  | none => .error (.invalidOperator s)

/-- A filter with its operator as a text; the operator is read before the field. -/
def create (field operator : String) (value : Value) : Except CriteriaError Filter := do
  let operator ← parseOperator operator
  new (← FieldName.parse field) operator value

/-- A filter with its field as a text. -/
def onField (field : String) (operator : Operator) (value : Value) : Except CriteriaError Filter := do
  new (← FieldName.parse field) operator value

/-- A filter that a caller sent: field, operator and value are read in this order. -/
def ofInput (input : FilterInput) : Except CriteriaError Filter := do
  let field ← FieldName.parse input.field
  let operator ← parseOperator input.operator
  match Value.ofJson input.value with
  | .ok value => new field operator value
  | .error fault => .error (.invalidValue field.text operator fault)

end Filter

/-- Filters that hold together. A field may occur several times. -/
abbrev Filters := List Filter

namespace Filters

/-- Checks the fields of the filters, in order, against the allowed ones. -/
def checkFields (allowed : List String) (filters : Filters) : Except CriteriaError Unit :=
  filters.forM fun filter => ensureAllowed .filter allowed filter.field.text

/-- Reads every filter, then checks the fields if only some are allowed. -/
def create (inputs : List FilterInput) (allowed : Option (List String)) :
    Except CriteriaError Filters := do
  let filters ← inputs.mapM Filter.ofInput
  if let some allowed := allowed then checkFields allowed filters
  return filters

/-- The filters on other fields. -/
def exclude (field : String) (filters : Filters) : Filters :=
  filters.filter fun filter => !filter.isOn field

def has (field : String) (filters : Filters) : Bool :=
  filters.any (Filter.isOn field)

/-- The first filter on the field. -/
def get? (field : String) (filters : Filters) : Option Filter :=
  filters.find? (Filter.isOn field)

/-- The value of the first filter on the field. -/
def valueOf? (field : String) (filters : Filters) : Option Value :=
  (get? field filters).map Filter.value

end Filters

end QueryCriteria
