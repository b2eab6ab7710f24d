import QueryCriteria.Text.Blank
import QueryCriteria.Text.Split

/-! The closed set of filter operators, their tokens and names, and how a text is read as one. -/
namespace QueryCriteria

inductive Operator where
  | equal
  | notEqual
  | greaterThan
  | greaterEqual
  | lessThan
  | lessEqual
  | contains
  | beginsWith
  | like
  | notLike
  | isIn
  | notIn
deriving DecidableEq, Repr

namespace Operator

def all : List Operator :=
  [.equal, .notEqual, .greaterThan, .greaterEqual, .lessThan, .lessEqual, .contains, .beginsWith,
    .like, .notLike, .isIn, .notIn]

theorem mem_all (op : Operator) : op ∈ all := by
  cases op <;> decide

/-- The token that stands for the operator in filters. -/
def token : Operator → String
  | .equal => "="
  | .notEqual => "!="
  | .greaterThan => ">"
  | .greaterEqual => ">="
  | .lessThan => "<"
  | .lessEqual => "<="
  | .contains => "CONTAINS"
  | .beginsWith => "BEGINS_WITH"
  | .like => "LIKE"
  | .notLike => "NOT LIKE"
  | .isIn => "IN"
  | .notIn => "NOT IN"

/-- The words of the name, in upper case. -/
def words : Operator → List String
  | .equal => ["EQUAL"]
  | .notEqual => ["NOT", "EQUAL"]
  | .greaterThan => ["GREATER", "THAN"]
  | .greaterEqual => ["GREATER", "EQUAL"]
  | .lessThan => ["LESS", "THAN"]
  | .lessEqual => ["LESS", "EQUAL"]
  | .contains => ["CONTAINS"]
  | .beginsWith => ["BEGINS", "WITH"]
  | .like => ["LIKE"]
  | .notLike => ["NOT", "LIKE"]
  | .isIn => ["IN"]
  | .notIn => ["NOT", "IN"]

/-- The name of the operator, its words joined by underscores. -/
def name (op : Operator) : String :=
  Text.join "_" op.words

/-- Further spellings. -/
def alias? : String → Option Operator
  | "==" | "EQ" => some .equal
  | "<>" | "NE" => some .notEqual
  | "GT" => some .greaterThan
  | "GTE" => some .greaterEqual
  | "LT" => some .lessThan
  | "LTE" => some .lessEqual
  | _ => none

/-- ASCII letters in upper case, without blanks at the ends. -/
def normalize (s : String) : String :=
  (Text.trim s).map Char.toUpper

/-- Token, name, name with blanks between its words, or alias; case does not matter. -/
def parse? (s : String) : Option Operator :=
  let text := normalize s
  (all.find? fun op => op.token == text || op.name == text || Text.join " " op.words == text).or
    (alias? text)

/-- Whether the operator compares with a list. -/
def takesList : Operator → Bool
  | .isIn | .notIn => true
  | _ => false

/-- Whether the operator compares with a text only. -/
def takesText : Operator → Bool
  | .contains | .beginsWith | .like | .notLike => true
  | _ => false

/-- Whether the operator is an order comparison. -/
def isRange : Operator → Bool
  | .greaterThan | .greaterEqual | .lessThan | .lessEqual => true
  | _ => false

end Operator

end QueryCriteria
