import QueryCriteria.Proofs.Criteria.Renaming

/-!
Removing a field from a tree. Every node loses its filters on the field and keeps all else, so the places
of the nodes stay, and removals do not disturb each other. A field that was renamed is removed under its
new name, together with whatever had that name before.
-/
namespace QueryCriteria

namespace Filters

variable (field other : String) (filters : Filters)

theorem exclude_comm : exclude other (exclude field filters) = exclude field (exclude other filters) := by
  simp only [exclude, List.filter_filter, Bool.and_comm]

theorem exclude_exclude : exclude field (exclude field filters) = exclude field filters := by
  simp only [exclude, List.filter_filter, Bool.and_self]

theorem exclude_eq_filter : exclude field filters = filters.filter fun f => f.field.text ≠ field := by
  rw [exclude]
  refine List.filter_congr fun f _ => ?_
  rw [Filter.isOn, beq_eq_decide, decide_not]

theorem exclude_cons (f : Filter) :
    exclude field (f :: filters) =
      if f.field.text = field then exclude field filters else f :: exclude field filters := by
  rw [exclude_eq_filter, exclude_eq_filter, List.filter_cons]
  simp

/-- Filters that are moved to a field and then removed might as well be removed where they are. -/
theorem exclude_map_moved {g : Filter → Filter}
    (hmoved : ∀ f, f.field.text = field → (g f).field.text = other)
    (hstay : ∀ f, f.field.text ≠ field → g f = f) :
    exclude other (filters.map g) = exclude other (exclude field filters) := by
  induction filters with
  | nil => rfl
  | cons f rest ih =>
    rw [List.map_cons, exclude_cons, exclude_cons]
    by_cases hf : f.field.text = field
    · rw [if_pos (hmoved f hf), if_pos hf, ih]
    · rw [hstay f hf, if_neg hf, exclude_cons, ih]

end Filters

namespace Criteria

theorem mapFilters_mapFilters (f g : Filters → Filters) (c : Criteria) :
    (c.mapFilters f).mapFilters g = c.mapFilters fun filters => g (f filters) := by
  induction c using Criteria.induction with
  | node filters order limit offset branches ih =>
    rw [mapFilters, mapFilters, mapFilters, mapFiltersAll_eq_map, mapFiltersAll_eq_map,
      mapFiltersAll_eq_map, List.map_map]
    exact congrArg (Criteria.mk _ order limit offset) (List.map_congr_left ih)

/-- The nodes of a changed tree are the changed nodes, each in its place. -/
theorem nodes_mapFilters (f : Filters → Filters) (c : Criteria) :
    (c.mapFilters f).nodes = c.nodes.map (mapFilters f) := by
  induction c using Criteria.induction with
  | node filters order limit offset branches ih =>
    rw [mapFilters, nodes, nodes, nodesAll_eq_flatMap, nodesAll_eq_flatMap, mapFiltersAll_eq_map,
      List.map_cons, mapFilters, mapFiltersAll_eq_map, List.flatMap_map, List.map_flatMap]
    exact congrArg _ (List.flatMap_congr ih)

theorem removeFilter_eq (field : String) (c : Criteria) :
    c.removeFilter field = c.mapFilters (Filters.exclude field) := rfl

/-- What removing a field makes of a node: the filters on other fields are left, in their order. -/
structure LacksField (field : String) (before after : Criteria) : Prop where
  filters : after.filters = before.filters.filter fun f => f.field.text ≠ field
  order : after.order = before.order
  limit : after.limit = before.limit
  offset : after.offset = before.offset
  branches : after.branches.length = before.branches.length

theorem lacksField_removeFilter (field : String) (c : Criteria) :
    LacksField field c (c.removeFilter field) := by
  obtain ⟨filters, order, limit, offset, branches⟩ := c
  refine ⟨Filters.exclude_eq_filter field filters, rfl, rfl, rfl, ?_⟩
  rw [removeFilter_eq, mapFilters, mapFiltersAll_eq_map, List.length_map]

/-- A single new name moves the filters on its field and no other. -/
theorem exists_renameFilters_single (field : String) (name : FieldName) :
    ∃ g : Filter → Filter, (∀ f, f.field.text = field → (g f).field.text = name.text) ∧
      (∀ f, f.field.text ≠ field → g f = f) ∧
      ∀ c : Criteria, c.renameFilters [(field, name.text)] = .ok (c.mapFilters (List.map g)) := by
  have hname : ∀ e ∈ [(field, name.text)], Text.trim e.2 ≠ "" := by
    intro e he
    obtain rfl := List.mem_singleton.mp he
    rw [name.trimmed]
    exact name.nonempty
  obtain ⟨g, hg, hrename⟩ := exists_renameFilters hname
  refine ⟨g, ?_, ?_, hrename⟩
  · intro f hf
    rw [(hg f).field, substitute, lookup_cons_eq_ite, if_pos hf.symm]
    exact name.trimmed
  · intro f hf
    have hstays : substitute [(field, name.text)] f.field.text = f.field.text := by
      rw [substitute, lookup_cons_eq_ite, if_neg (Ne.symm hf)]
      rfl
    exact (hg f).unique ⟨hstays.symm, rfl, rfl⟩

/--
Removing a field reaches every node of the tree and touches nothing else. Removing it again changes
nothing, two fields may be removed in either order, and a field that was renamed before the new name was
removed is gone as if both had been removed.
-/
theorem removal_minimal (c : Criteria) (field : String) :
    List.Forall₂ (LacksField field) c.nodes (c.removeFilter field).nodes ∧
    (c.removeFilter field).removeFilter field = c.removeFilter field ∧
    (∀ other, (c.removeFilter field).removeFilter other = (c.removeFilter other).removeFilter field) ∧
    ∀ name : FieldName, ∃ d, c.renameFilters [(field, name.text)] = .ok d ∧
      d.removeFilter name.text = (c.removeFilter field).removeFilter name.text := by
  refine ⟨?_, ?_, ?_, ?_⟩
  · rw [removeFilter_eq, nodes_mapFilters, List.forall₂_map_right_iff, List.forall₂_same]
    exact fun n _ => lacksField_removeFilter field n
  · rw [removeFilter_eq, removeFilter_eq, mapFilters_mapFilters]
    simp only [Filters.exclude_exclude]
  · intro other
    simp only [removeFilter_eq, mapFilters_mapFilters, Filters.exclude_comm field other]
  · intro name
    obtain ⟨g, hmoved, hstay, hrename⟩ := exists_renameFilters_single field name
    refine ⟨c.mapFilters (List.map g), hrename c, ?_⟩
    simp only [removeFilter_eq, mapFilters_mapFilters]
    congr 1
    funext filters
    exact Filters.exclude_map_moved field name.text filters hmoved hstay

end Criteria

end QueryCriteria
