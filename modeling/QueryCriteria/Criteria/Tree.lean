import QueryCriteria.Criteria.Filter
import QueryCriteria.Criteria.Order

/-!
Criteria trees. A node selects what all of its filters accept, and besides that what any of its
branches selects. Order and pagination count at the root only; branches merely carry theirs.
-/
namespace QueryCriteria

/-- Filters, order, pagination, and alternative branches. -/
structure Criteria where
  filters : Filters
  order : Order
  limit : Option UInt64
  offset : Option UInt64
  branches : List Criteria

namespace Criteria

/-- Selects everything. -/
def all : Criteria := ⟨[], .none, none, none, []⟩

def ofFilters (filters : Filters) : Criteria :=
  { all with filters }

/-- A pagination parameter, which must not be negative. -/
def pageBound (bound : PageBound) : Option Int64 → Except CriteriaError (Option UInt64)
  | none => .ok none
  | some n => if n < 0 then .error (.negativePagination bound n) else .ok (some n.toUInt64)

/-- What a caller asks for; the allowed fields bind filters and sort fields alike. -/
def create (filters : List FilterInput) (orderBy orderType : Option String)
    (limit offset : Option Int64) (allowed : Option (List String)) :
    Except CriteriaError Criteria := do
  let filters ← Filters.create filters allowed
  let order ← Order.create orderBy orderType allowed
  let limit ← pageBound .limit limit
  let offset ← pageBound .offset offset
  return ⟨filters, order, limit, offset, []⟩

/-- Whether the root has filters of its own. -/
def hasFilters (c : Criteria) : Bool :=
  !c.filters.isEmpty

/-- Neither filters nor branches: every record is selected. -/
def isUnconstrained (c : Criteria) : Bool :=
  c.filters.isEmpty && c.branches.isEmpty

/-- Whether order or pagination is set on the root. -/
def hasModifiers (c : Criteria) : Bool :=
  c.order.isOrdered || c.limit.isSome || c.offset.isSome

/-- Whether the criteria asks for nothing but all records. -/
def isEmpty (c : Criteria) : Bool :=
  c.isUnconstrained && !c.hasModifiers

mutual

/-- Every node with the tree below it, depth first, the root first. -/
def nodes : Criteria → List Criteria
  | ⟨filters, order, limit, offset, branches⟩ =>
    ⟨filters, order, limit, offset, branches⟩ :: nodesAll branches

/-- The nodes of several trees, one tree after the other. -/
def nodesAll : List Criteria → List Criteria
  | [] => []
  | c :: rest => nodes c ++ nodesAll rest

end

mutual

/-- Changes the filters of every node; all else stays. -/
def mapFilters (f : Filters → Filters) : Criteria → Criteria
  | ⟨filters, order, limit, offset, branches⟩ =>
    ⟨f filters, order, limit, offset, mapFiltersAll f branches⟩

def mapFiltersAll (f : Filters → Filters) : List Criteria → List Criteria
  | [] => []
  | c :: rest => mapFilters f c :: mapFiltersAll f rest

end

mutual

/-- Whether a node below the root carries order or pagination. -/
def hasNestedModifiers : Criteria → Bool
  | ⟨_, _, _, _, branches⟩ => anyModifiers branches

/-- Whether a node of one of the trees carries order or pagination. -/
def anyModifiers : List Criteria → Bool
  | [] => false
  | c :: rest => c.hasModifiers || hasNestedModifiers c || anyModifiers rest

end

mutual

/-- Checks every field of the tree against the allowed ones, filters before sort fields. -/
def checkFields (allowed : List String) : Criteria → Except CriteriaError Unit
  | ⟨filters, order, _, _, branches⟩ => do
    Filters.checkFields allowed filters
    Order.checkFields allowed order
    checkFieldsAll allowed branches

def checkFieldsAll (allowed : List String) : List Criteria → Except CriteriaError Unit
  | [] => .ok ()
  | c :: rest => do
    checkFields allowed c
    checkFieldsAll allowed rest

end

mutual

/-- Equality of trees, with filters compared by their values. -/
def same : Criteria → Criteria → Bool
  | ⟨filters, order, limit, offset, branches⟩, other =>
    Filter.sameAll filters other.filters && order == other.order && limit == other.limit
      && offset == other.offset && sameAll branches other.branches

def sameAll : List Criteria → List Criteria → Bool
  | [], [] => true
  | a :: as, b :: bs => same a b && sameAll as bs
  | _, _ => false

end

/-- Drops the filters on a field, everywhere in the tree. -/
def removeFilter (field : String) : Criteria → Criteria :=
  mapFilters (Filters.exclude field)

/-- New names of fields; those without an entry keep theirs. -/
abbrev Renaming := Entries FieldName

/-- Reads the new names; a blank one is refused. -/
def Renaming.parse (targets : Entries String) : Except CriteriaError Renaming :=
  targets.mapM fun (old, new) => do return (old, ← FieldName.parse new)

/-- The filter under its new name. -/
def Renaming.apply (names : Renaming) (filter : Filter) : Filter :=
  match Entries.get? names filter.field.text with
  | some field => filter.renamed field
  | none => filter

/-- Renames fields everywhere in the tree, all at once; sort fields keep their names. -/
def renameFilters (targets : Entries String) (c : Criteria) : Except CriteriaError Criteria := do
  let names ← Renaming.parse targets
  return c.mapFilters (List.map names.apply)

/-- Renames fields in the tree that a caller keeps. -/
def rename (targets : Entries String) : StateM Criteria (Except CriteriaError Unit) := ExceptT.run do
  let names ← (Renaming.parse targets : Except CriteriaError Renaming)
  modify (mapFilters (List.map names.apply))

end Criteria

end QueryCriteria
