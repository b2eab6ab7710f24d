import QueryCriteria.KeyValue.Commands
import QueryCriteria.Proofs.Criteria.Form
import QueryCriteria.Proofs.Dynamo.Definitions
import QueryCriteria.Proofs.Search.Meaning
import QueryCriteria.Proofs.Sql.Where
import QueryCriteria.Search.Commands

/-!
Order and pagination of branches. Whatever evaluates or translates a tree computes it from the filters of
each node and from the results for its branches, so what branches carry besides does not count.
-/
namespace QueryCriteria

/-- Residuals that select the same, and then sort and paginate alike, do the same. -/
theorem Residual.apply_congr {p q : Residual} {records : List Record}
    (hselected : p.selected records = q.selected records) (horder : p.order = q.order)
    (hoffset : p.offset = q.offset) (hlimit : p.limit = q.limit) :
    p.apply records = q.apply records := by
  rw [apply_eq, apply_eq, page, page, sorted, sorted, hselected, horder, hoffset, hlimit]

namespace Criteria

/-- Trees of one shape with the same filters; order and pagination may differ at every node. -/
inductive SameFilters : Criteria → Criteria → Prop where
  | node {c d : Criteria} (filters : c.filters = d.filters)
      (branches : List.Forall₂ SameFilters c.branches d.branches) : SameFilters c d

/-- Trees that are the same, but for order and pagination below the root. -/
structure SameButBelow (c d : Criteria) : Prop where
  tree : c.SameFilters d
  order : c.order = d.order
  limit : c.limit = d.limit
  offset : c.offset = d.offset

namespace SameFilters

variable {c d : Criteria}

theorem refl (c : Criteria) : c.SameFilters c := by
  induction c using Criteria.induction with
  | node filters order limit offset branches ih => exact .node rfl (List.forall₂_same.mpr ih)

theorem isEmpty_eq (h : c.SameFilters d) : c.branches.isEmpty = d.branches.isEmpty := by
  obtain ⟨_, hbranches⟩ := h
  exact isEmpty_eq_of_forall₂ hbranches

theorem isUnconstrained_eq (h : c.SameFilters d) : c.isUnconstrained = d.isUnconstrained := by
  have hbranches := h.isEmpty_eq
  obtain ⟨hfilters, _⟩ := h
  rw [isUnconstrained, isUnconstrained, hfilters, hbranches]

/-- What is computed from the filters of a node and the results for its branches is the same. -/
theorem eq_of_fold {α : Type} {f : Criteria → α} (step : Filters → List α → α)
    (hf : ∀ c, f c = step c.filters (c.branches.map f)) (h : c.SameFilters d) : f c = f d := by
  induction c using Criteria.induction generalizing d with
  | node filters order limit offset branches ih =>
    obtain ⟨hfilters, hbranches⟩ := h
    rw [hf, hf d, hfilters, map_eq_of_forall₂ hbranches fun b hb b' hsame => ih b hb hsame]

theorem selects_eq (h : c.SameFilters d) (record : Record) : c.selects record = d.selects record := by
  refine h.eq_of_fold (fun filters results =>
    if !filters.isEmpty && filters.all (·.holds record) then true
    else if results.isEmpty then filters.isEmpty else results.any id) ?_
  rintro ⟨filters, order, limit, offset, branches⟩
  rw [selects, anySelects_eq_any, List.isEmpty_map]

theorem any_isUnconstrained_eq (h : c.SameFilters d) :
    c.nodes.any isUnconstrained = d.nodes.any isUnconstrained := by
  refine h.eq_of_fold (f := fun c => c.nodes.any isUnconstrained)
    (fun filters results => filters.isEmpty && results.isEmpty || results.any id) ?_
  intro c
  rw [any_nodes_isUnconstrained, isUnconstrained, List.isEmpty_map]

theorem condition_eq (h : c.SameFilters d) :
    Sql.Condition.ofCriteria c = Sql.Condition.ofCriteria d := by
  refine h.eq_of_fold (fun filters results => Sql.Condition.alternatives
    (Sql.Condition.ofFilters filters ++ results.map (Option.getD · .truth))) ?_
  rintro ⟨filters, order, limit, offset, branches⟩
  rw [Sql.Condition.ofCriteria, Sql.Condition.ofBranches_eq_map, List.map_map]
  rfl

theorem expression_eq (h : c.SameFilters d) :
    Dynamo.Expression.ofCriteria c = Dynamo.Expression.ofCriteria d := by
  refine h.eq_of_fold (fun filters results => do
    let conditions ← filters.mapM Dynamo.Condition.ofFilter
    let own := if conditions.isEmpty then [] else [.conjunction conditions]
    return Dynamo.Expression.alternatives
      (own ++ (← (results.mapM id).map (List.flatMap Option.toList)))) ?_
  rintro ⟨filters, order, limit, offset, branches⟩
  rw [Dynamo.Expression.ofCriteria, Dynamo.Expression.ofBranches_eq_mapM, List.mapM_map]
  rfl

theorem query_eq (h : c.SameFilters d) : Search.Query.ofCriteria c = Search.Query.ofCriteria d := by
  refine h.eq_of_fold (fun filters results =>
    if results.isEmpty then (Search.Query.ofFilters filters).headD .all
    else .anyOf (Search.Query.ofFilters filters ++ results)) ?_
  rintro ⟨filters, order, limit, offset, branches⟩
  rw [Search.Query.ofCriteria, Search.Query.ofBranches_eq_map, List.isEmpty_map]

theorem pushdown?_eq (h : c.SameFilters d) (collection : KeyValue.Collection) :
    collection.pushdown? c = collection.pushdown? d := by
  have hbranches := h.isEmpty_eq
  obtain ⟨hfilters, _⟩ := h
  rw [KeyValue.Collection.pushdown?, KeyValue.Collection.pushdown?, hfilters, hbranches]

end SameFilters

namespace SameButBelow

variable {c d : Criteria}

theorem with_filters (h : c.SameButBelow d) (filters : Filters) :
    SameButBelow { c with filters } { d with filters } := by
  obtain ⟨⟨_, hbranches⟩, horder, hlimit, hoffset⟩ := h
  exact ⟨.node rfl hbranches, horder, hlimit, hoffset⟩

/-- The predicates that are left to do may differ, but not in what they select. -/
theorem residual_apply_eq (h : c.SameButBelow d) (records : List Record) :
    (Residual.ofCriteria c).apply records = (Residual.ofCriteria d).apply records := by
  have hselected : (Residual.ofCriteria c).selected records =
      (Residual.ofCriteria d).selected records := by
    rw [Residual.ofCriteria, Residual.ofCriteria, h.tree.isUnconstrained_eq]
    cases d.isUnconstrained with
    | true => rfl
    | false => exact List.filter_congr fun record _ => h.tree.selects_eq record
  exact Residual.apply_congr hselected h.order h.offset h.limit

theorem sql_eq (h : c.SameButBelow d) : Sql.Query.ofCriteria c = Sql.Query.ofCriteria d := by
  rw [Sql.Query.ofCriteria, Sql.Query.ofCriteria, h.tree.condition_eq, h.order, h.limit, h.offset]

theorem dynamo_eq (h : c.SameButBelow d) : Dynamo.Query.ofCriteria c = Dynamo.Query.ofCriteria d := by
  rw [Dynamo.Query.ofCriteria, Dynamo.Query.ofCriteria, h.order, h.tree.any_isUnconstrained_eq,
    h.tree.expression_eq]

theorem search_eq (h : c.SameButBelow d) (window : UInt64) :
    Search.body window c = Search.body window d := by
  rw [Search.body, Search.body, h.limit, h.offset, h.order, h.tree.query_eq]

theorem plan_eq (h : c.SameButBelow d) (collection : KeyValue.Collection) :
    (collection.plan c).command = (collection.plan d).command ∧
      ∀ records, (collection.plan c).residual.apply records =
        (collection.plan d).residual.apply records := by
  have hfilters : c.filters = d.filters := by
    obtain ⟨⟨hfilters, _⟩, _⟩ := h
    exact hfilters
  rw [KeyValue.Collection.plan, KeyValue.Collection.plan, h.tree.pushdown?_eq, hfilters]
  cases collection.pushdown? d with
  | none => exact ⟨rfl, h.residual_apply_eq⟩
  | some pushed => exact ⟨rfl, (h.with_filters _).residual_apply_eq⟩

end SameButBelow

/--
Trees that differ only in the order and the pagination of branches, at any depth, select the same records.
They have the same SQL query, the same filter expression or refusal, and the same search body or refusal;
and over keys the same command, with remaining work that does the same to every list of records.
-/
theorem branch_modifiers_ignored {c d : Criteria} (h : c.SameButBelow d) :
    (∀ record, c.selects record = d.selects record) ∧
      Sql.Query.ofCriteria c = Sql.Query.ofCriteria d ∧
      Dynamo.Query.ofCriteria c = Dynamo.Query.ofCriteria d ∧
      (∀ window, Search.body window c = Search.body window d) ∧
      ∀ collection : KeyValue.Collection, ∃ p q, collection.commands.matching c = .ok p ∧
        collection.commands.matching d = .ok q ∧ p.command = q.command ∧
        ∀ records, p.residual.apply records = q.residual.apply records := by
  refine ⟨h.tree.selects_eq, h.sql_eq, h.dynamo_eq, h.search_eq, fun collection => ?_⟩
  obtain ⟨hcommand, hresidual⟩ := h.plan_eq collection
  exact ⟨_, _, rfl, rfl, hcommand, hresidual⟩

/-- Criteria with branches below a branch, of which one level is sorted and the next one paginated. -/
def layered (order : Order) (limit offset : Option UInt64) : Criteria :=
  { admitted with branches := [{ admitted with
      order, branches := admitted.branches.map fun b => { b with limit, offset } }] }

theorem layered_sameButBelow (order order' : Order) (limit limit' offset offset' : Option UInt64) :
    (layered order limit offset).SameButBelow (layered order' limit' offset') where
  tree := by
    have hleaves : List.Forall₂ SameFilters
        (admitted.branches.map fun b => { b with limit, offset })
        (admitted.branches.map fun b => { b with limit := limit', offset := offset' }) := by
      rw [List.forall₂_map_left_iff, List.forall₂_map_right_iff, List.forall₂_same]
      exact fun b _ => .node rfl (List.forall₂_same.mpr fun n _ => .refl n)
    exact .node rfl (.cons (.node rfl hleaves) .nil)
  order := rfl
  limit := rfl
  offset := rfl

theorem branch_modifiers_ignored_layered :
    let paged := layered ⟨admitted.filters.map (·.field), .desc⟩ (some 1) (some 2)
    let plain := layered .none none none
    paged.hasNestedModifiers = true ∧ plain.hasNestedModifiers = false ∧ paged.SameButBelow plain ∧
      (∀ record, paged.selects record = plain.selects record) ∧
      Sql.Query.ofCriteria paged = Sql.Query.ofCriteria plain ∧
      Dynamo.Query.ofCriteria paged = Dynamo.Query.ofCriteria plain ∧
      ∀ window, Search.body window paged = Search.body window plain := by
  intro paged plain
  have hsame : paged.SameButBelow plain := layered_sameButBelow ..
  obtain ⟨hselects, hsql, hdynamo, hsearch, _⟩ := branch_modifiers_ignored hsame
  exact ⟨rfl, rfl, hsame, hselects, hsql, hdynamo, hsearch⟩

end Criteria

end QueryCriteria
