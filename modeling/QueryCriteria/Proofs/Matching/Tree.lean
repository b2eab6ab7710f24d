import QueryCriteria.Matching.Evaluate

/-!
Criteria trees and the records they select, by induction over the branches. What a record holds for
the fields of the filters decides whether the tree selects it.
-/
namespace QueryCriteria

/-- What holds of a node if it holds of the branches holds of every tree. -/
theorem Criteria.induction {P : Criteria → Prop}
    (node : ∀ filters order limit offset branches,
      (∀ b ∈ branches, P b) → P ⟨filters, order, limit, offset, branches⟩) (c : Criteria) : P c :=
  @Criteria.rec P (fun branches => ∀ b ∈ branches, P b) node nofun
    (fun _ _ hb hbs => List.forall_mem_cons.mpr ⟨hb, hbs⟩) c

namespace Criteria

theorem anySelects_iff {record : Record} {branches : List Criteria} :
    anySelects record branches = true ↔ ∃ b ∈ branches, b.selects record = true := by
  induction branches with
  | nil => simp [anySelects]
  | cons b rest ih => simp [anySelects, ih]

theorem anySelects_eq_any (record : Record) (branches : List Criteria) :
    anySelects record branches = (branches.map (selects record)).any id := by
  induction branches with
  | nil => rfl
  | cons b rest ih => rw [anySelects, ih, List.map_cons, List.any_cons, id]

/-- A node selects what all its filters accept and what a branch selects; an empty one, everything. -/
theorem selects_iff {record : Record} {c : Criteria} :
    c.selects record = true ↔
      (c.filters ≠ [] ∧ ∀ f ∈ c.filters, f.holds record = true) ∨
        (c.filters = [] ∧ c.branches = []) ∨ ∃ b ∈ c.branches, b.selects record = true := by
  obtain ⟨filters, order, limit, offset, branches⟩ := c
  rw [selects, ← anySelects_iff]
  cases filters with
  | nil =>
    cases branches with
    | nil => simp
    | cons b rest => simp
  | cons f rest =>
    cases branches with
    | nil => simp [anySelects]
    | cons b bs => simp [List.all_eq_true]

theorem selects_iff_of_branches_nil {c : Criteria} (h : c.branches = []) {record : Record} :
    c.selects record = true ↔ ∀ f ∈ c.filters, f.holds record = true := by
  rw [selects_iff, h]
  by_cases hf : c.filters = []
  · simp [hf]
  · simp [hf]

theorem isUnconstrained_iff {c : Criteria} :
    c.isUnconstrained = true ↔ c.filters = [] ∧ c.branches = [] := by
  simp [isUnconstrained]

/-- A tree that constrains nothing selects every record. -/
theorem selects_of_isUnconstrained {c : Criteria} (h : c.isUnconstrained = true) (record : Record) :
    c.selects record = true :=
  selects_iff.mpr (.inr (.inl (isUnconstrained_iff.mp h)))

/-- The ways in which a node can select a record: all its filters together, and each branch. -/
def ways (record : Record) (c : Criteria) : List Prop :=
  (if c.filters = [] then [] else [∀ f ∈ c.filters, f.holds record = true]) ++
    c.branches.map fun b => b.selects record = true

theorem ways_ne_nil {record : Record} {c : Criteria}
    (h : ¬ (c.filters = [] ∧ c.branches = [])) : c.ways record ≠ [] := by
  by_cases hf : c.filters = []
  · have hb : c.branches ≠ [] := fun hb => h ⟨hf, hb⟩
    simp [ways, hf, hb]
  · simp [ways, hf]

theorem selects_iff_ways {record : Record} {c : Criteria}
    (h : ¬ (c.filters = [] ∧ c.branches = [])) :
    c.selects record = true ↔ ∃ p ∈ c.ways record, p := by
  have hbranches : (∃ p ∈ c.branches.map fun b => b.selects record = true, p) ↔
      ∃ b ∈ c.branches, b.selects record = true := by
    constructor
    · rintro ⟨p, hp, hsel⟩
      obtain ⟨b, hb, rfl⟩ := List.mem_map.mp hp
      exact ⟨b, hb, hsel⟩
    · rintro ⟨b, hb, hsel⟩
      exact ⟨_, List.mem_map_of_mem hb, hsel⟩
  rw [selects_iff, ways, ← hbranches]
  simp only [h, false_or, List.mem_append, or_and_right, exists_or]
  refine or_congr_left ?_
  by_cases hf : c.filters = []
  · simp [hf]
  · rw [if_neg hf]
    constructor
    · rintro ⟨_, hall⟩
      exact ⟨_, List.mem_singleton_self _, hall⟩
    · rintro ⟨p, hp, hall⟩
      exact ⟨hf, (List.mem_singleton.mp hp) ▸ hall⟩

theorem nodesAll_eq_flatMap (branches : List Criteria) : nodesAll branches = branches.flatMap nodes := by
  induction branches with
  | nil => rfl
  | cons b rest ih => simp [nodesAll, ih]

/-- What all nodes hold is what the root holds, and then what the nodes of each branch hold. -/
theorem flatMap_nodes {α : Type} (f : Criteria → List α) (c : Criteria) :
    c.nodes.flatMap f = f c ++ c.branches.flatMap fun b => b.nodes.flatMap f := by
  obtain ⟨filters, order, limit, offset, branches⟩ := c
  rw [nodes, nodesAll_eq_flatMap, List.flatMap_cons, List.flatMap_assoc]

theorem forall_nodes {P : Criteria → Prop} {c : Criteria} :
    (∀ n ∈ c.nodes, P n) ↔ P c ∧ ∀ b ∈ c.branches, ∀ n ∈ b.nodes, P n := by
  obtain ⟨filters, order, limit, offset, branches⟩ := c
  rw [nodes, List.forall_mem_cons, nodesAll_eq_flatMap]
  refine and_congr_right fun _ => ?_
  simp only [List.mem_flatMap, forall_exists_index, and_imp]
  exact ⟨fun h b hb n hn => h n b hb hn, fun h n b hb hn => h b hb n hn⟩

/-- A node that constrains nothing makes the whole tree select every record. -/
theorem selects_of_node {record : Record} (c : Criteria) {n : Criteria} (hn : n ∈ c.nodes)
    (hu : n.isUnconstrained = true) : c.selects record = true := by
  induction c using Criteria.induction with
  | node filters order limit offset branches ih =>
    rw [nodes, nodesAll_eq_flatMap, List.mem_cons] at hn
    rcases hn with rfl | hn
    · exact selects_of_isUnconstrained hu record
    · obtain ⟨b, hb, hn⟩ := List.mem_flatMap.mp hn
      exact selects_iff.mpr (.inr (.inr ⟨b, hb, ih b hb hn⟩))

/-- The filters of all nodes. -/
def allFilters (c : Criteria) : Filters :=
  c.nodes.flatMap (·.filters)

theorem allFilters_eq (c : Criteria) :
    c.allFilters = c.filters ++ c.branches.flatMap allFilters :=
  flatMap_nodes (·.filters) c

theorem forall_allFilters {P : Filter → Prop} {c : Criteria} :
    (∀ f ∈ c.allFilters, P f) ↔
      (∀ f ∈ c.filters, P f) ∧ ∀ b ∈ c.branches, ∀ f ∈ b.allFilters, P f := by
  have hnodes (c : Criteria) : (∀ f ∈ c.allFilters, P f) ↔ ∀ n ∈ c.nodes, ∀ f ∈ n.filters, P f := by
    simp only [allFilters, List.mem_flatMap, forall_exists_index, and_imp]
    exact ⟨fun h n hn f hf => h f n hn hf, fun h f n hn hf => h n hn f hf⟩
  rw [hnodes, forall_nodes]
  exact and_congr_right fun _ => forall_congr' fun b => forall_congr' fun _ => (hnodes b).symm

end Criteria

namespace Scalar

/-- Whether the scalar is not a float, or a finite one. -/
def isFinite : Scalar → Bool
  | .float x => x.isFinite
  | _ => true

theorem toJson_ne_null {s : Scalar} (h : s.isFinite = true) : s.toJson ≠ .null := by
  cases s with
  | float x => simpa [toJson, Json.ofBinary64, isFinite] using h
  | bool b => nofun
  | integer n => nofun
  | text s => nofun

end Scalar

namespace Test

/-- The scalars that a test compares with. -/
def operands : Test → List Scalar
  | .equal operand | .notEqual operand => operand.toList
  | .range _ operand => [operand]
  | .text _ operand => [.text operand]
  | .isIn members | .notIn members => members

/-- All floats that a test compares with are finite. -/
def IsFinite (test : Test) : Prop :=
  ∀ s ∈ test.operands, s.isFinite = true

/-- Whether a missing value satisfies a test: it equals null, and it satisfies the negations. -/
def holdsOnMissing : Test → Bool
  | .equal operand => operand.isNone
  | .notEqual operand => operand.isSome
  | .range _ _ => false
  | .text test _ => test == .notLike
  | .isIn _ => false
  | .notIn _ => true

theorem equals_null {s : Scalar} (h : s.isFinite = true) : equals .null s.toJson = false := by
  have hs := s.toJson_ne_null h
  cases hj : s.toJson <;> simp_all [equals, Json.compare?]

theorem holds_null {test : Test} (h : test.IsFinite) : test.holds .null = test.holdsOnMissing := by
  cases test with
  | equal operand =>
    cases operand with
    | none => rfl
    | some s => exact equals_null (h s (by simp [operands]))
  | notEqual operand =>
    cases operand with
    | none => rfl
    | some s => simp [holds, holdsOnMissing, Json.ofOption, equals_null (h s (by simp [operands]))]
  | range relation s =>
    have hs := s.toJson_ne_null (h s (by simp [operands]))
    cases hj : s.toJson <;> cases relation <;>
      simp_all [holds, holdsOnMissing, Json.compare?, Relation.accepts]
  | text test s => rfl
  | isIn members =>
    simp only [holds, holdsOnMissing, List.any_eq_false]
    exact fun s hs => by simp [equals_null (h s hs)]
  | notIn members =>
    simp only [holds, holdsOnMissing, Bool.not_eq_true', List.any_eq_false]
    exact fun s hs => by simp [equals_null (h s hs)]

end Test

namespace Json

/-- Neither an array nor an object. -/
def isPlain : Json → Bool
  | .array _ | .object _ => false
  | _ => true

end Json

namespace Record

/-- The value of the field with the whole name; that of a missing field is null. -/
def column (record : Record) (field : String) : Json :=
  (Entries.get? record field).getD .null

/-- A missing field is not reached by a path into nested objects either. -/
def Reaches (record : Record) (field : String) : Prop :=
  Entries.get? record field = none → record.resolve field = .null

theorem resolve_eq_column {record : Record} {field : String} (h : record.Reaches field) :
    record.resolve field = record.column field := by
  cases hf : Entries.get? record field with
  | none => rw [h hf, column, hf, Option.getD_none]
  | some value => simp [resolve, column, hf]

end Record

/-- What a filter says of a record is what its test says of the column. -/
theorem Filter.holds_eq_column {filter : Filter} {record : Record}
    (h : record.Reaches filter.field.text) :
    filter.holds record = filter.test.holds (record.column filter.field.text) := by
  rw [holds, Record.resolve_eq_column h]

/-- What a translated filter asks of a record: finite operands, and no field of a nested object. -/
structure Filter.Fits (filter : Filter) (record : Record) : Prop where
  finite : filter.test.IsFinite
  reaches : record.Reaches filter.field.text

/-- The column of the filter holds neither an array nor an object. -/
structure Filter.FitsPlain (filter : Filter) (record : Record) : Prop extends
    filter.Fits record where
  plain : (record.column filter.field.text).isPlain = true

namespace Criteria

/-- Adults, and whoever is neither a guest nor without a name. -/
def admitted : Criteria :=
  { ofFilters [⟨⟨"age", rfl, by decide⟩, .range .greaterEqual (.integer 18)⟩] with
    branches := [ofFilters [⟨⟨"role", rfl, by decide⟩, .notIn [.text "guest"]⟩,
      ⟨⟨"name", rfl, by decide⟩, .notEqual none⟩]] }

theorem admitted_fits :
    ∀ f ∈ admitted.allFilters, f.FitsPlain [("age", .ofInt64 12), ("name", .text "Ada")] := by
  intro f hf
  have hmem : f ∈ [_, _, _] := hf
  simp only [List.mem_cons, List.not_mem_nil, or_false] at hmem
  rcases hmem with rfl | rfl | rfl
  · exact ⟨⟨by unfold Test.IsFinite; decide, fun h => by cases h⟩, rfl⟩
  · exact ⟨⟨by unfold Test.IsFinite; decide, fun _ => rfl⟩, rfl⟩
  · exact ⟨⟨by unfold Test.IsFinite; decide, fun h => by cases h⟩, rfl⟩

end Criteria

end QueryCriteria
