import Mathlib.Data.List.Flatten
import Mathlib.Logic.Relation
import QueryCriteria.Proofs.Matching.Tree

/-!
Criteria trees without their nesting. A node that has branches and no filters only stands for its
branches; every other node is an alternative of its own, and a tree selects what one of its alternatives
accepts. So neither the order of branches nor the groups in which they stand matter.
-/
namespace QueryCriteria

namespace Criteria

/-- By itself the node selects the record: all its filters do, or it constrains nothing at all. -/
def Grants (record : Record) (n : Criteria) : Prop :=
  (n.filters ≠ [] ∧ ∀ f ∈ n.filters, f.holds record = true) ∨ (n.filters = [] ∧ n.branches = [])

theorem exists_nodes {P : Criteria → Prop} {c : Criteria} :
    (∃ n ∈ c.nodes, P n) ↔ P c ∨ ∃ b ∈ c.branches, ∃ n ∈ b.nodes, P n := by
  obtain ⟨filters, order, limit, offset, branches⟩ := c
  simp only [nodes, nodesAll_eq_flatMap, List.mem_cons, List.mem_flatMap, or_and_right, exists_or,
    exists_eq_left]
  refine or_congr_right ?_
  constructor
  · rintro ⟨n, ⟨b, hb, hn⟩, hP⟩
    exact ⟨b, hb, n, hn, hP⟩
  · rintro ⟨b, hb, n, hn, hP⟩
    exact ⟨n, ⟨b, hb, hn⟩, hP⟩

/-- A tree selects what one of its nodes selects by itself. -/
theorem selects_iff_exists_grants {record : Record} (c : Criteria) :
    c.selects record = true ↔ ∃ n ∈ c.nodes, n.Grants record := by
  induction c using Criteria.induction with
  | node filters order limit offset branches ih =>
    rw [selects_iff, exists_nodes, ← or_assoc]
    exact or_congr_right (exists_congr fun b => and_congr_right fun hb => ih b hb)

/-- The alternative that a node is by itself, unless it only stands for its branches. -/
def own (c : Criteria) : List Filters :=
  if c.filters.isEmpty && !c.branches.isEmpty then [] else [c.filters]

/-- The alternatives of a tree. -/
def alternatives (c : Criteria) : List Filters :=
  c.nodes.flatMap own

theorem alternatives_eq (c : Criteria) :
    c.alternatives = c.own ++ c.branches.flatMap alternatives :=
  flatMap_nodes own c

theorem grants_iff {record : Record} {n : Criteria} :
    n.Grants record ↔ ∃ filters ∈ n.own, ∀ f ∈ filters, f.holds record = true := by
  rw [Grants, own]
  cases hfilters : n.filters with
  | nil => cases n.branches <;> simp
  | cons f rest => simp

theorem selects_iff_exists_alternative {record : Record} (c : Criteria) :
    c.selects record = true ↔ ∃ filters ∈ c.alternatives, ∀ f ∈ filters, f.holds record = true := by
  rw [selects_iff_exists_grants, alternatives]
  simp only [List.mem_flatMap, grants_iff]
  constructor
  · rintro ⟨n, hn, filters, hown, hall⟩
    exact ⟨filters, ⟨n, hn, hown⟩, hall⟩
  · rintro ⟨filters, ⟨n, hn, hown⟩, hall⟩
    exact ⟨n, hn, filters, hown, hall⟩

/-- One change of how a tree is grouped, at any depth. -/
inductive Regroups : Criteria → Criteria → Prop where
  /-- The branches of a node in another order. -/
  | permute {c : Criteria} {branches : List Criteria} (h : c.branches.Perm branches) :
    Regroups c { c with branches }
  /-- The branches of a node without filters, in the place of that node. -/
  | splice {c n : Criteria} {before after : List Criteria} (h : c.branches = before ++ n :: after)
    (hfilters : n.filters = []) (hbranches : n.branches ≠ []) :
    Regroups c { c with branches := before ++ n.branches ++ after }
  /-- A change within a branch. -/
  | within {c b d : Criteria} {before after : List Criteria} (h : c.branches = before ++ b :: after)
    (hchange : Regroups b d) : Regroups c { c with branches := before ++ d :: after }

theorem own_congr {c : Criteria} {branches : List Criteria} (h : branches = [] ↔ c.branches = []) :
    own { c with branches } = c.own := by
  have hempty : branches.isEmpty = c.branches.isEmpty := by
    rw [Bool.eq_iff_iff, List.isEmpty_iff, List.isEmpty_iff, h]
  rw [own, own, hempty]

/-- A change of groups leaves the alternatives, up to their order. -/
theorem Regroups.alternatives_perm {c d : Criteria} (h : Regroups c d) :
    d.alternatives.Perm c.alternatives := by
  induction h with
  | @permute c branches h =>
    have hempty : branches = [] ↔ c.branches = [] := by
      rw [← List.length_eq_zero_iff, ← h.length_eq, List.length_eq_zero_iff]
    rw [alternatives_eq, alternatives_eq c, own_congr hempty]
    exact (h.symm.flatMap_right _).append_left _
  | @splice c n before after h hfilters hbranches =>
    have hnone : n.own = [] := by simp [own, hfilters, hbranches]
    have hflat : n.alternatives = n.branches.flatMap alternatives := by
      rw [alternatives_eq, hnone, List.nil_append]
    have hempty : before ++ n.branches ++ after = [] ↔ c.branches = [] := by simp [h, hbranches]
    rw [alternatives_eq, alternatives_eq c, own_congr hempty, h]
    simp only [List.flatMap_append, List.flatMap_cons, hflat, List.append_assoc]
    exact .refl _
  | @within c b d before after h _ ih =>
    have hempty : before ++ d :: after = [] ↔ c.branches = [] := by simp [h]
    rw [alternatives_eq, alternatives_eq c, own_congr hempty, h]
    simp only [List.flatMap_append, List.flatMap_cons]
    exact ((ih.append_right _).append_left _).append_left _

theorem alternatives_perm {c d : Criteria} (h : Relation.ReflTransGen Regroups c d) :
    d.alternatives.Perm c.alternatives := by
  induction h with
  | refl => exact .refl _
  | tail _ hstep ih => exact hstep.alternatives_perm.trans ih

/--
A tree selects a record exactly if one of its nodes does so by itself, wherever it stands: a node with
filters if they all accept the record, and a node with neither filters nor branches always. However the
branches are permuted and the groups dissolved, at whatever depth, the same records are selected.
-/
theorem selects_flat (c : Criteria) :
    (∀ record, c.selects record = true ↔ ∃ n ∈ c.nodes, n.Grants record) ∧
      ∀ d, Relation.ReflTransGen Regroups c d → ∀ record, d.selects record = c.selects record := by
  refine ⟨fun record => selects_iff_exists_grants c, ?_⟩
  intro d h record
  have hperm := alternatives_perm h
  rw [Bool.eq_iff_iff, selects_iff_exists_alternative, selects_iff_exists_alternative]
  exact exists_congr fun filters => and_congr_left fun _ => hperm.mem_iff

def secretaries : Criteria :=
  ofFilters [⟨⟨"office", rfl, by decide⟩, .equal (some (.text "secretary"))⟩]

def namesakes : Criteria :=
  ofFilters [⟨⟨"surname", rfl, by decide⟩, .equal (some (.text "King"))⟩]

/-- Secretaries, next to a group of namesakes and of those who are admitted. -/
def grouped : Criteria :=
  { all with branches := [secretaries, { all with branches := [namesakes, admitted] }] }

theorem selects_flat_grouped :
    Relation.ReflTransGen Regroups grouped { all with branches := [admitted, secretaries, namesakes] } ∧
      ∀ record, selects record { all with branches := [admitted, secretaries, namesakes] } =
        grouped.selects record := by
  have hgrouped : grouped.branches =
      [secretaries] ++ { all with branches := [namesakes, admitted] } :: [] := rfl
  have hsplice : Regroups grouped { all with branches := [secretaries, namesakes, admitted] } :=
    .splice hgrouped rfl (List.cons_ne_nil _ _)
  have hpermute : Regroups { all with branches := [secretaries, namesakes, admitted] }
      { all with branches := [admitted, secretaries, namesakes] } :=
    .permute (List.perm_append_comm : ([secretaries, namesakes] ++ [admitted]).Perm _)
  have h := (Relation.ReflTransGen.single hsplice).tail hpermute
  exact ⟨h, (selects_flat grouped).2 _ h⟩

end Criteria

end QueryCriteria
