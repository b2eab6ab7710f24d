import QueryCriteria.Criteria.Tree
import QueryCriteria.Json.Basic

/-!
Filter expressions of DynamoDB. The conditions of an expression are numbered from left to right; the
number of a condition makes its placeholders, so no placeholder is ever used for two conditions.
Expressions written with a counter come out the same (`writing_ofCriteria`).
-/
namespace QueryCriteria.Dynamo

/-- The comparisons of an attribute with one value. -/
inductive Comparison where
  | equal
  | distinct
  | range (relation : Relation)
deriving DecidableEq, Repr

def Comparison.text : Comparison → String
  | .equal => "="
  | .distinct => "<>"
  | .range relation => relation.operator.token

/-- What is asked of one attribute. -/
inductive Clause where
  /-- The attribute is missing, or it is of the type NULL. -/
  | isNull
  | isNotNull
  | compare (comparison : Comparison) (operand : Json)
  | contains (operand : Json)
  | beginsWith (operand : Json)
  | isIn (members : List Json)
  | notIn (members : List Json)

/-- A clause on an attribute. -/
structure Condition where
  field : String
  clause : Clause

inductive Expression where
  /-- All conditions hold. -/
  | conjunction (conditions : List Condition)
  /-- One of the expressions holds. -/
  | disjunction (expressions : List Expression)

/-- The name of the type NULL where a type is asked for. -/
def nullType : String := "NULL"

/-- The placeholder for the attribute of a condition. -/
def namePlaceholder (n : Nat) : String :=
  "#f" ++ toString n

/-- The placeholder for the only value of a condition. -/
def valuePlaceholder (n : Nat) : String :=
  ":v" ++ toString n

/-- The placeholder for a member of the list of a condition. -/
def memberPlaceholder (n i : Nat) : String :=
  valuePlaceholder n ++ "_" ++ toString i

/-- The values of a clause with their placeholders. -/
def Clause.values (n : Nat) : Clause → List (String × Json)
  | .isNull | .isNotNull => [(valuePlaceholder n, .text nullType)]
  | .compare _ operand | .contains operand | .beginsWith operand => [(valuePlaceholder n, operand)]
  | .isIn members | .notIn members =>
    members.zipIdx.map fun member => (memberPlaceholder n member.2, member.1)

/-- The list of the placeholders of a clause. -/
private def Clause.places (clause : Clause) (n : Nat) : String :=
  Text.join ", " ((clause.values n).map (·.1))

/-- The text of a clause with its number. -/
def Clause.text (clause : Clause) (n : Nat) : String :=
  let name := namePlaceholder n
  let places := clause.places n
  match clause with
  | .isNull =>
    "(attribute_not_exists(" ++ name ++ ") OR attribute_type(" ++ name ++ ", " ++ places ++ "))"
  | .isNotNull =>
    "(attribute_exists(" ++ name ++ ") AND NOT attribute_type(" ++ name ++ ", " ++ places ++ "))"
  | .compare comparison _ => name ++ " " ++ comparison.text ++ " " ++ places
  | .contains _ => "contains(" ++ name ++ ", " ++ places ++ ")"
  | .beginsWith _ => "begins_with(" ++ name ++ ", " ++ places ++ ")"
  | .isIn _ => name ++ " IN (" ++ places ++ ")"
  | .notIn _ => "NOT (" ++ name ++ " IN (" ++ places ++ "))"

namespace Expression

mutual

/-- The conditions of an expression from left to right. -/
def conditions : Expression → List Condition
  | .conjunction conditions => conditions
  | .disjunction expressions => conditionsAll expressions

def conditionsAll : List Expression → List Condition
  | [] => []
  | e :: rest => conditions e ++ conditionsAll rest

end

mutual

/-- The text of an expression whose first condition has the number `n`. -/
def text (n : Nat) : Expression → String
  | .conjunction conditions =>
    Text.join " AND " ((conditions.zipIdx n).map fun numbered => numbered.1.clause.text numbered.2)
  | .disjunction expressions => Text.join " OR " (textAll n expressions)

/-- The texts of expressions, each between brackets, with numbers running through. -/
def textAll (n : Nat) : List Expression → List String
  | [] => []
  | e :: rest => ("(" ++ text n e ++ ")") :: textAll (n + (conditions e).length) rest

end

/-- The attributes of the conditions under their placeholders. -/
def names (e : Expression) : Entries String :=
  .ofList (e.conditions.zipIdx.map fun numbered => (namePlaceholder numbered.2, numbered.1.field))

/-- The values of the conditions under their placeholders. -/
def values (e : Expression) : Entries Json :=
  .ofList (e.conditions.zipIdx.flatMap fun numbered => numbered.1.clause.values numbered.2)

end Expression

end QueryCriteria.Dynamo
