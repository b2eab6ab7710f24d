import QueryCriteria.Dynamo.Expression
import QueryCriteria.Store.Error

/-!
Criteria as filter expressions. Scans return items in no order, so an order cannot be expressed; nor
can LIKE patterns, nor lists that are empty or too long for the service.
-/
namespace QueryCriteria.Dynamo

def backendName : String := "dynamodb"

/-- The service takes at most this many members of a list. -/
def maxMembers : Nat := 100

/-- A filter expression with the meaning of its placeholders. -/
structure Query where
  filter : Option String
  names : Entries String
  values : Entries Json

namespace Query

/-- The query that every item passes. -/
def everything : Query := ⟨none, [], []⟩

def ofExpression (e : Expression) : Query :=
  ⟨some (e.text 0), e.names, e.values⟩

end Query

/-- The members of a list, if the service takes as many. -/
def checkMembers (field : String) (operator : Operator) (members : List Scalar) :
    Except StoreError (List Json) :=
  let subject := operator.token ++ " on '" ++ field ++ "'"
  if members.isEmpty then
    .error (.inexpressible backendName (subject ++ " needs at least one value"))
  else if maxMembers < members.length then
    .error (.inexpressible backendName (subject ++ " has " ++ toString members.length
      ++ " values; at most " ++ toString maxMembers ++ " are allowed"))
  else .ok (members.map Scalar.toJson)

/-- The clause for a test of an attribute. -/
def Clause.ofTest (field : String) (test : Test) : Except StoreError Clause :=
  match test with
  | .equal none => .ok .isNull
  | .equal (some operand) => .ok (.compare .equal operand.toJson)
  | .notEqual none => .ok .isNotNull
  | .notEqual (some operand) => .ok (.compare .distinct operand.toJson)
  | .range relation operand => .ok (.compare (.range relation) operand.toJson)
  | .text .contains s => .ok (.contains (.text s))
  | .text .beginsWith s => .ok (.beginsWith (.text s))
  | .text other _ => .error (.unsupportedOperator backendName other.operator.token)
  | .isIn members => (checkMembers field .isIn members).map .isIn
  | .notIn members => (checkMembers field .notIn members).map .notIn

def Condition.ofFilter (filter : Filter) : Except StoreError Condition := do
  return ⟨filter.field.text, ← Clause.ofTest filter.field.text filter.test⟩

namespace Expression

/-- Alternatives; there may be none, and a single one stands for itself. -/
def alternatives : List Expression → Option Expression
  | [] => none
  | [e] => some e
  | es => some (.disjunction es)

mutual

/-- The expression of a tree, its own filters before those of the branches. -/
def ofCriteria : Criteria → Except StoreError (Option Expression)
  | ⟨filters, _, _, _, branches⟩ => do
    let conditions ← filters.mapM Condition.ofFilter
    let own := if conditions.isEmpty then [] else [.conjunction conditions]
    return alternatives (own ++ (← ofBranches branches))

def ofBranches : List Criteria → Except StoreError (List Expression)
  | [] => .ok []
  | c :: rest => do
    let first ← ofCriteria c
    return first.toList ++ (← ofBranches rest)

end

end Expression

/--
The query of a criteria tree. There is no expression that is always true, so a branch that selects
everything makes the whole tree do so.
-/
def Query.ofCriteria (c : Criteria) : Except StoreError Query :=
  if c.order.isOrdered then
    .error (.inexpressible backendName ("Ordering by '" ++ c.order.fieldsText
      ++ "' requires a sort key; scans return items unordered"))
  else if c.nodes.any Criteria.isUnconstrained then .ok .everything
  else do
    match ← Expression.ofCriteria c with
    | some e => return .ofExpression e
    | none => return .everything

end QueryCriteria.Dynamo
