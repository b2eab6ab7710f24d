import QueryCriteria.Criteria.Tree
import QueryCriteria.Matching.Compare
import QueryCriteria.Pattern.Like

/-!
Evaluating criteria on records. A missing attribute is null, so it satisfies the negations and no
other test.
-/
namespace QueryCriteria

/-- Whether one list occurs in another as a run of neighbours. -/
def occursIn (needle : List Char) : List Char → Bool
  | [] => needle.isEmpty
  | c :: rest => needle.isPrefixOf (c :: rest) || occursIn needle rest

namespace Relation

/-- Whether an order of two values satisfies the relation; incomparable values satisfy none. -/
def accepts : Relation → Option Ordering → Bool
  | .greaterThan, ordering => ordering == some .gt
  | .greaterEqual, ordering => ordering == some .gt || ordering == some .eq
  | .lessThan, ordering => ordering == some .lt
  | .lessEqual, ordering => ordering == some .lt || ordering == some .eq

end Relation

namespace TextTest

/-- A comparison of a text with a text. -/
def onText : TextTest → String → String → Bool
  | .contains, operand, s => occursIn operand.toList s.toList
  | .beginsWith, operand, s => operand.toList.isPrefixOf s.toList
  | .like, pattern, s => Pattern.like s pattern
  | .notLike, pattern, s => !Pattern.like s pattern

/-- What is no text satisfies the negation only; an array contains its members that are texts. -/
def holds (test : TextTest) (operand : String) : Json → Bool
  | .text s => test.onText operand s
  | .array items => test == .notLike || (test == .contains && items.any fun item => item.text? == some operand)
  | _ => test == .notLike

end TextTest

namespace Test

/-- Whether a value equals an operand. -/
def equals (actual operand : Json) : Bool :=
  actual.compare? operand == some .eq

/-- Whether a value satisfies a test. -/
def holds (test : Test) (actual : Json) : Bool :=
  match test with
  | .equal operand => equals actual (Json.ofOption Scalar.toJson operand)
  | .notEqual operand => !equals actual (Json.ofOption Scalar.toJson operand)
  | .range relation operand => relation.accepts (actual.compare? operand.toJson)
  | .text test operand => test.holds operand actual
  | .isIn members => members.any fun member => equals actual member.toJson
  | .notIn members => !members.any fun member => equals actual member.toJson

end Test

/-- Whether a record satisfies a filter. -/
def Filter.holds (filter : Filter) (record : Record) : Bool :=
  filter.test.holds (record.resolve filter.field.text)

namespace Criteria

mutual

/-- Whether a tree selects a record. -/
def selects (record : Record) : Criteria → Bool
  | ⟨filters, _, _, _, branches⟩ =>
    if !filters.isEmpty && filters.all (·.holds record) then true
    else if branches.isEmpty then filters.isEmpty
    else anySelects record branches

/-- Whether one of several trees selects a record. -/
def anySelects (record : Record) : List Criteria → Bool
  | [] => false
  | c :: rest => selects record c || anySelects record rest

end

end Criteria

end QueryCriteria
