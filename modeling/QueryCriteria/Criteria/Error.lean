import QueryCriteria.Criteria.Operator
import QueryCriteria.Criteria.Value

/-! What can be wrong with criteria that a caller gives, and the check against a list of allowed fields. -/
namespace QueryCriteria

/-- Where a field name was given. -/
inductive FieldUse where
  | filter
  | orderBy
deriving DecidableEq, Repr

def FieldUse.wording : FieldUse → String
  | .filter => "filter"
  | .orderBy => "order_by"

/-- The two pagination parameters. -/
inductive PageBound where
  | limit
  | offset
deriving DecidableEq, Repr

def PageBound.wording : PageBound → String
  | .limit => "limit"
  | .offset => "offset"

inductive CriteriaError where
  | emptyField
  | invalidOperator (text : String)
  | invalidField (use : FieldUse) (field : String) (allowed : List String)
  | invalidOrderType (text : String)
  | invalidValue (field : String) (operator : Operator) (fault : ValueFault)
  | negativePagination (bound : PageBound) (value : Int64)
deriving DecidableEq

namespace CriteriaError

/-- The values that would have been accepted, where the error has such a list. -/
def allowed? : CriteriaError → Option (List String)
  | .invalidOperator _ => some (Operator.all.map Operator.token)
  | .invalidField _ _ allowed => some allowed
  | _ => none

/-- The allowed values joined by commas. -/
private def allowedText (error : CriteriaError) : String :=
  Text.join ", " (error.allowed?.getD [])

def message (error : CriteriaError) : String :=
  match error with
  | .emptyField => "Field name cannot be empty"
  | .invalidOperator text =>
    "Operator '" ++ text ++ "' is not valid. Allowed operators are: " ++ error.allowedText
  | .invalidField use field _ =>
    "Field '" ++ field ++ "' is not valid for " ++ use.wording ++ ". Allowed fields are: "
      ++ error.allowedText
  | .invalidOrderType text => "Order type '" ++ text ++ "' is not valid. Must be one of: asc, desc"
  | .invalidValue field operator fault =>
    "Invalid value for '" ++ field ++ "' with operator " ++ operator.token ++ ": " ++ fault.wording
  | .negativePagination bound value =>
    "Pagination parameter '" ++ bound.wording ++ "' must be non-negative, got "
      ++ toString value.toInt

end CriteriaError

/-- Checks that a field is among the allowed ones. -/
def ensureAllowed (use : FieldUse) (allowed : List String) (field : String) :
    Except CriteriaError Unit :=
  if field ∈ allowed then .ok () else .error (.invalidField use field allowed)

theorem ensureAllowed_eq_ok_iff {use : FieldUse} {allowed : List String} {field : String} :
    ensureAllowed use allowed field = .ok () ↔ field ∈ allowed := by
  unfold ensureAllowed
  split <;> simp_all

theorem ensureAllowed_eq_error_iff {use : FieldUse} {allowed : List String} {field : String}
    {e : CriteriaError} :
    ensureAllowed use allowed field = .error e ↔ field ∉ allowed ∧ e = .invalidField use field allowed := by
  unfold ensureAllowed
  split <;> simp_all [eq_comm]

end QueryCriteria
