import QueryCriteria.Criteria.Tree
import QueryCriteria.Pattern.Like
import QueryCriteria.Sql.Token

/-!
Criteria as SQL conditions. A missing value is NULL: comparisons with it are not true, so the
negations allow it explicitly.
-/
namespace QueryCriteria.Sql

/-- The comparisons of a column with a bound value. -/
inductive Comparison where
  | equal
  | distinct
  | range (relation : Relation)
  | like
  | notLike
deriving DecidableEq, Repr

def Comparison.text : Comparison → String
  | .equal => "="
  | .distinct => "IS DISTINCT FROM"
  | .range relation => relation.operator.token
  | .like => "LIKE"
  | .notLike => "NOT LIKE"

inductive Condition where
  | truth
  | falsity
  | isNull (column : String)
  | isNotNull (column : String)
  | compare (column : String) (comparison : Comparison) (operand : Param)
  | isIn (column : String) (members : List Param)
  | notIn (column : String) (members : List Param)
  /-- The column is NULL, or else the condition holds. -/
  | nullOr (column : String) (condition : Condition)
  | conjunction (conditions : List Condition)
  | disjunction (conditions : List Condition)

namespace Condition

private def memberTokens (column word : String) (members : List Param) : List Token :=
  .identifier column :: .fixed (" " ++ word ++ " (")
    :: separated ", " (members.map fun member => [.param member]) ++ [.fixed ")"]

mutual

/-- A condition as tokens. Only the parts of a disjunction are bracketed. -/
def tokens : Condition → List Token
  | .truth => [.fixed "TRUE"]
  | .falsity => [.fixed "FALSE"]
  | .isNull column => [.identifier column, .fixed " IS NULL"]
  | .isNotNull column => [.identifier column, .fixed " IS NOT NULL"]
  | .compare column comparison operand =>
    [.identifier column, .fixed (" " ++ comparison.text ++ " "), .param operand]
  | .isIn column members => memberTokens column "IN" members
  | .notIn column members => memberTokens column "NOT IN" members
  | .nullOr column condition =>
    .fixed "(" :: .identifier column :: .fixed " IS NULL OR " :: tokens condition ++ [.fixed ")"]
  | .conjunction conditions => separated " AND " (tokensAll conditions)
  | .disjunction conditions => separated " OR " (bracketedAll conditions)

def tokensAll : List Condition → List (List Token)
  | [] => []
  | c :: rest => tokens c :: tokensAll rest

/-- Each condition between brackets. -/
def bracketedAll : List Condition → List (List Token)
  | [] => []
  | c :: rest => (.fixed "(" :: tokens c ++ [.fixed ")"]) :: bracketedAll rest

end

/-- A test of a text with a LIKE pattern; what is given as a literal text is escaped. -/
private def ofTextTest (column : String) : TextTest → String → Condition
  | .contains, s => .compare column .like (.text ("%" ++ Pattern.escapeLike s ++ "%"))
  | .beginsWith, s => .compare column .like (.text (Pattern.escapeLike s ++ "%"))
  | .like, pattern => .compare column .like (.text pattern)
  | .notLike, pattern => .nullOr column (.compare column .notLike (.text pattern))

/-- The condition that a test puts on a column. -/
def ofTest (column : String) : Test → Condition
  | .equal none => .isNull column
  | .equal (some operand) => .compare column .equal (.ofScalar operand)
  | .notEqual none => .isNotNull column
  | .notEqual (some operand) => .compare column .distinct (.ofScalar operand)
  | .range relation operand => .compare column (.range relation) (.ofScalar operand)
  | .text test operand => ofTextTest column test operand
  | .isIn [] => .falsity
  | .isIn members => .isIn column (members.map Param.ofScalar)
  | .notIn [] => .truth
  | .notIn members => .nullOr column (.notIn column (members.map Param.ofScalar))

def ofFilter (filter : Filter) : Condition :=
  ofTest filter.field.text filter.test

/-- The filters of one node together; a node without filters contributes none. -/
def ofFilters : Filters → List Condition
  | [] => []
  | filters => [.conjunction (filters.map ofFilter)]

/-- Alternatives; there may be none, and a single one stands for itself. -/
def alternatives : List Condition → Option Condition
  | [] => none
  | [condition] => some condition
  | conditions => some (.disjunction conditions)

mutual

/-- The condition of a tree; without one, every row is selected. -/
def ofCriteria : Criteria → Option Condition
  | ⟨filters, _, _, _, branches⟩ => alternatives (ofFilters filters ++ ofBranches branches)

/-- The conditions of branches; one that selects every row is the true condition. -/
def ofBranches : List Criteria → List Condition
  | [] => []
  | c :: rest => (ofCriteria c).getD .truth :: ofBranches rest

end

end Condition

end QueryCriteria.Sql
