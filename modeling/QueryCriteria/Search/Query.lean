import QueryCriteria.Criteria.Tree
import QueryCriteria.Json.Basic
import QueryCriteria.Pattern.Wildcard

/-!
Queries of a search engine. Exact conditions select without scoring, a search for words scores, and
negations exclude, so that documents without the field pass them.
-/
namespace QueryCriteria.Search

/-- A condition on one field. -/
inductive Clause where
  | present (field : String)
  | term (field : String) (operand : Json)
  | terms (field : String) (members : List Json)
  | range (field : String) (relation : Relation) (operand : Json)
  /-- Full-text search for words. -/
  | words (field : String) (text : String)
  | beginsWith (field : String) (text : String)
  /-- A wildcard pattern. -/
  | wildcard (field : String) (pattern : String)

/-- The three ways in which a clause can count. -/
structure Clauses where
  must : List Clause
  filter : List Clause
  mustNot : List Clause

inductive Query where
  | all
  | filtered (clauses : Clauses)
  /-- One of the queries matches. -/
  | anyOf (queries : List Query)

namespace Clauses

def none : Clauses := ⟨[], [], []⟩

def requiring (c : Clause) : Clauses := { none with must := [c] }

def selecting (c : Clause) : Clauses := { none with filter := [c] }

def excluding (c : Clause) : Clauses := { none with mustNot := [c] }

def append (a b : Clauses) : Clauses :=
  ⟨a.must ++ b.must, a.filter ++ b.filter, a.mustNot ++ b.mustNot⟩

/-- The clause for a test, in the list where it counts. -/
def ofTest (field : String) : Test → Clauses
  | .equal Option.none => excluding (.present field)
  | .equal (some operand) => selecting (.term field operand.toJson)
  | .notEqual Option.none => selecting (.present field)
  | .notEqual (some operand) => excluding (.term field operand.toJson)
  | .range relation operand => selecting (.range field relation operand.toJson)
  | .text .contains s => requiring (.words field s)
  | .text .beginsWith s => selecting (.beginsWith field s)
  | .text .like pattern => selecting (.wildcard field (Pattern.likeToWildcard pattern))
  | .text .notLike pattern => excluding (.wildcard field (Pattern.likeToWildcard pattern))
  | .isIn members => selecting (.terms field (members.map Scalar.toJson))
  | .notIn members => excluding (.terms field (members.map Scalar.toJson))

/-- The clauses of filters that hold together. -/
def ofFilters : Filters → Clauses
  | [] => none
  | filter :: rest => append (ofTest filter.field.text filter.test) (ofFilters rest)

end Clauses

namespace Query

/-- The query of a node's own filters; a node without filters has none. -/
def ofFilters (filters : Filters) : List Query :=
  if filters.isEmpty then [] else [.filtered (Clauses.ofFilters filters)]

mutual

/-- The query of a tree. -/
def ofCriteria : Criteria → Query
  | ⟨filters, _, _, _, branches⟩ =>
    if branches.isEmpty then (ofFilters filters).headD .all
    else .anyOf (ofFilters filters ++ ofBranches branches)

def ofBranches : List Criteria → List Query
  | [] => []
  | c :: rest => ofCriteria c :: ofBranches rest

end

end Query

/-- An object with one field. -/
private def single (name : String) (value : Json) : Json :=
  .object [(name, value)]

/-- The bound of a range under which an operand stands. -/
def boundName : Relation → String
  | .greaterThan => "gt"
  | .greaterEqual => "gte"
  | .lessThan => "lt"
  | .lessEqual => "lte"

def Clause.toJson : Clause → Json
  | .present field => single "exists" (single "field" (.text field))
  | .term field operand => single "term" (single field operand)
  | .terms field members => single "terms" (single field (.array members))
  | .range field relation operand =>
    single "range" (single field (single (boundName relation) operand))
  | .words field text => single "match" (single field (.text text))
  | .beginsWith field text => single "prefix" (single field (.text text))
  | .wildcard field pattern => single "wildcard" (single field (single "value" (.text pattern)))

/-- A list of clauses, unless it is empty. -/
private def part (name : String) (clauses : List Clause) : List (String × Json) :=
  if clauses.isEmpty then [] else [(name, .array (clauses.map Clause.toJson))]

def Clauses.toJson (clauses : Clauses) : Json :=
  single "bool" (.object (part "filter" clauses.filter ++ part "must" clauses.must
    ++ part "must_not" clauses.mustNot))

namespace Query

mutual

def toJson : Query → Json
  | .all => single "match_all" (.object [])
  | .filtered clauses => clauses.toJson
  | .anyOf queries =>
    single "bool" (.object [("minimum_should_match", .ofUInt64 1),
      ("should", .array (toJsonAll queries))])

def toJsonAll : List Query → List Json
  | [] => []
  | q :: rest => toJson q :: toJsonAll rest

end

end Query

end QueryCriteria.Search
