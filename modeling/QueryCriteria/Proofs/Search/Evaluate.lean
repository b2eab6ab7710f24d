import QueryCriteria.Proofs.Matching.Tree
import QueryCriteria.Search.Query

/-!
Search queries as an engine reads their JSON form. The list of a boolean query in which a clause
stands decides how it counts; how single fields are searched is left to the engine, and what is relied
on is stated as `Engine.Lawful`.
-/
namespace QueryCriteria.Search

/-- How an engine searches a field, which is null if it is missing. -/
structure Engine where
  term : Json → Json → Bool
  terms : Json → List Json → Bool
  range : Relation → Json → Json → Bool
  words : Json → String → Bool
  beginsWith : Json → String → Bool
  wildcard : Json → String → Bool

/--
What is relied on of an engine. Nothing is found in a missing field; elsewhere, as long as the value
is neither an array nor an object, the engine finds what the positive tests of criteria accept.
-/
structure Engine.Lawful (engine : Engine) : Prop where
  term_null : ∀ operand, engine.term .null operand = false
  terms_null : ∀ members, engine.terms .null members = false
  range_null : ∀ relation operand, engine.range relation .null operand = false
  words_null : ∀ s, engine.words .null s = false
  beginsWith_null : ∀ s, engine.beginsWith .null s = false
  wildcard_null : ∀ pattern, engine.wildcard .null pattern = false
  term_value : ∀ value operand, value ≠ .null → value.isPlain = true →
    engine.term value operand = Test.equals value operand
  terms_value : ∀ value members, value ≠ .null → value.isPlain = true →
    engine.terms value members = members.any (Test.equals value)
  range_value : ∀ relation value operand, value ≠ .null → value.isPlain = true →
    engine.range relation value operand = relation.accepts (value.compare? operand)
  words_value : ∀ value s, value ≠ .null → value.isPlain = true →
    engine.words value s = TextTest.contains.holds s value
  beginsWith_value : ∀ value s, value ≠ .null → value.isPlain = true →
    engine.beginsWith value s = TextTest.beginsWith.holds s value
  wildcard_value : ∀ value pattern, value ≠ .null → value.isPlain = true →
    engine.wildcard value pattern =
      value.text?.any fun s => Pattern.accepts (Pattern.ofWildcard pattern.toList) s.toList

/-- An engine that finds what criteria accept. -/
def Engine.direct : Engine where
  term value operand := !value.isNull && Test.equals value operand
  terms value members := !value.isNull && members.any (Test.equals value)
  range relation value operand := !value.isNull && relation.accepts (value.compare? operand)
  words value s := TextTest.contains.holds s value
  beginsWith value s := TextTest.beginsWith.holds s value
  wildcard value pattern :=
    value.text?.any fun s => Pattern.accepts (Pattern.ofWildcard pattern.toList) s.toList

theorem Engine.direct_lawful : Engine.direct.Lawful := by
  constructor
  case term_value => intro value operand hv _; simp [direct, Json.isNull_of_ne hv]
  case terms_value => intro value members hv _; simp [direct, Json.isNull_of_ne hv]
  case range_value => intro relation value operand hv _; simp [direct, Json.isNull_of_ne hv]
  all_goals intros; rfl

/-- The relation that a bound of a range stands for. -/
def relation? : String → Option Relation
  | "gt" => some .greaterThan
  | "gte" => some .greaterEqual
  | "lt" => some .lessThan
  | "lte" => some .lessEqual
  | _ => none

section Evaluate

variable (engine : Engine) (document : String → Json)

/-- A query that is no combination of others. -/
def evaluateLeaf : String → List (String × Json) → Option Bool
  | "match_all", [] => some true
  | "exists", [("field", .text field)] => some !(document field).isNull
  | "term", [(field, operand)] => some (engine.term (document field) operand)
  | "terms", [(field, .array members)] => some (engine.terms (document field) members)
  | "range", [(field, .object [(bound, operand)])] =>
    (relation? bound).map fun relation => engine.range relation (document field) operand
  | "match", [(field, .text s)] => some (engine.words (document field) s)
  | "prefix", [(field, .text s)] => some (engine.beginsWith (document field) s)
  | "wildcard", [(field, .object [("value", .text pattern)])] =>
    some (engine.wildcard (document field) pattern)
  | _, _ => none

/-- What the results of the clauses in a list of a boolean query come to. -/
def occurrence (minimum : Nat) : String → List Bool → Option Bool
  | "must", results | "filter", results => some (results.all id)
  | "must_not", results => some !results.any id
  | "should", results => some (minimum ≤ results.count true)
  | _, _ => none

/-- How many clauses of the list of alternatives have to hold. -/
def minimumShouldMatch (parts : List (String × Json)) : Nat :=
  ((Entries.get? parts "minimum_should_match").bind (Json.natBelow? (2 ^ 64))).getD 0

mutual

/-- Whether a query matches a document. What is no query has no result. -/
def evaluate : Json → Option Bool
  | .object [("bool", .object parts)] => evaluateParts (minimumShouldMatch parts) parts
  | .object [(kind, .object fields)] => evaluateLeaf engine document kind fields
  | _ => none

/-- The parts of a boolean query, all of which have to hold. -/
def evaluateParts (minimum : Nat) : List (String × Json) → Option Bool
  | [] => some true
  | ("minimum_should_match", _) :: rest => evaluateParts minimum rest
  | (name, .array queries) :: rest => do
    let results ← evaluateAll queries
    let here ← occurrence minimum name results
    let others ← evaluateParts minimum rest
    return here && others
  | _ => none

def evaluateAll : List Json → Option (List Bool)
  | [] => some []
  | query :: rest => do
    let result ← evaluate query
    let results ← evaluateAll rest
    return result :: results

end

end Evaluate

end QueryCriteria.Search
