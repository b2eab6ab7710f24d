import QueryCriteria.Criteria.Tree
import QueryCriteria.Json.Reader

/-!
Criteria in JSON: the requests that callers send, and the forms in which filters, orders and trees
are written. A request is read strictly: strings and integers are not converted into one another.
-/
namespace QueryCriteria

namespace FilterInput

/-- Field and operator are required; a missing value is null. -/
def read : Reader Json FilterInput := fun json =>
  match Reader.parts .refused ["field", "operator", "value"] json with
  | some [field, operator, value] => do
    return { field := ← Reader.orElse none Json.text? field,
             operator := ← Reader.orElse none Json.text? operator,
             value := ← Reader.orElse (some .null) Reader.any value }
  | _ => none

def toJson (input : FilterInput) : Json :=
  .object [("field", .text input.field), ("operator", .text input.operator), ("value", input.value)]

end FilterInput

/-- Criteria as callers send them: nothing is checked yet. -/
structure CriteriaRequest where
  filters : List FilterInput
  orderBy : Option String
  orderType : Option String
  limit : Option Int64
  offset : Option Int64

namespace CriteriaRequest

/-- Every part may be missing. -/
def read : Reader Json CriteriaRequest := fun json =>
  match Reader.parts .refused ["filters", "order_by", "order_type", "limit", "offset"] json with
  | some [filters, orderBy, orderType, limit, offset] => do
    return { filters := ← Reader.orElse (some []) (Reader.list FilterInput.read) filters,
             orderBy := ← Reader.orElse (some none) (Reader.optional Json.text?) orderBy,
             orderType := ← Reader.orElse (some none) (Reader.optional Json.text?) orderType,
             limit := ← Reader.orElse (some none) (Reader.optional Json.int64?) limit,
             offset := ← Reader.orElse (some none) (Reader.optional Json.int64?) offset }
  | _ => none

def toJson (request : CriteriaRequest) : Json :=
  .object (Entries.ofList
    [("filters", .array (request.filters.map FilterInput.toJson)),
      ("order_by", .ofOption .text request.orderBy),
      ("order_type", .ofOption .text request.orderType),
      ("limit", .ofOption .ofInt64 request.limit),
      ("offset", .ofOption .ofInt64 request.offset)])

/-- The criteria of a request; with a list of allowed fields no others may occur. -/
def toCriteria (request : CriteriaRequest) (allowed : Option (List String)) :
    Except CriteriaError Criteria :=
  Criteria.create request.filters request.orderBy request.orderType request.limit request.offset
    allowed

end CriteriaRequest

/-- The written form of a filter. -/
def Filter.toJson (filter : Filter) : Json :=
  .object [("field", .text filter.field.text), ("operator", .text filter.operator.token),
    ("value", filter.value.toJson)]

def Filters.toJson (filters : Filters) : Json :=
  .array (filters.map Filter.toJson)

/-- The written form of an order. -/
def Order.toJson (order : Order) : Json :=
  .object [("order_by", .text order.fieldsText), ("order_type", .text order.type.text)]

namespace Criteria

mutual

/-- The written form of a tree. -/
def toJson : Criteria → Json
  | ⟨filters, order, limit, offset, branches⟩ =>
    .object (Entries.ofList
      [("filters", Filters.toJson filters), ("order", order.toJson),
        ("limit", .ofOption .ofUInt64 limit), ("offset", .ofOption .ofUInt64 offset),
        ("or_criteria", .array (toJsonAll branches))])

def toJsonAll : List Criteria → List Json
  | [] => []
  | c :: rest => toJson c :: toJsonAll rest

end

end Criteria

end QueryCriteria
