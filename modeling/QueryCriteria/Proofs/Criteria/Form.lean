import Mathlib.Data.List.Forall2
import QueryCriteria.Proofs.Matching.Tree

/-!
The form of criteria: the shape of the tree and the operators of its filters, without fields and values.
Of a value only whether it is null and of a list only its length belong to the form.
-/
namespace QueryCriteria

/-- Lists related one by one have one image under functions that agree on related members. -/
theorem map_eq_of_forall₂ {α β γ : Type} {R : α → β → Prop} {f : α → γ} {g : β → γ}
    {as : List α} {bs : List β} (h : List.Forall₂ R as bs)
    (hfg : ∀ a ∈ as, ∀ b, R a b → f a = g b) : as.map f = bs.map g := by
  induction h with
  | nil => rfl
  | @cons a b as bs hab _ ih =>
    have hhead : f a = g b := hfg a List.mem_cons_self b hab
    exact congrArg₂ List.cons hhead (ih fun a' ha' => hfg a' (List.mem_cons_of_mem a ha'))

/-- How many values a list holds; another value is one. -/
def Value.count : Value → Nat
  | .list items => items.length
  | _ => 1

/-- One operator; null is compared with null, and a list with one of the same length. -/
structure Filter.SameForm (f g : Filter) : Prop where
  operator : f.operator = g.operator
  null : f.operator = .equal ∨ f.operator = .notEqual → f.value.isNull = g.value.isNull
  count : f.operator = .isIn ∨ f.operator = .notIn → f.value.count = g.value.count

theorem Filter.SameForm.refl (f : Filter) : f.SameForm f :=
  ⟨rfl, fun _ => rfl, fun _ => rfl⟩

/-- Trees of one shape whose corresponding filters are related. -/
inductive Criteria.Matched (R : Filter → Filter → Prop) : Criteria → Criteria → Prop where
  | node {c d : Criteria} (filters : List.Forall₂ R c.filters d.filters)
      (branches : List.Forall₂ (Criteria.Matched R) c.branches d.branches) : Criteria.Matched R c d

/-- Trees of one shape whose corresponding filters have one form. -/
def Criteria.SameForm : Criteria → Criteria → Prop :=
  Matched Filter.SameForm

/-- A test with an operator, some null or not and some list of a length. -/
def Test.sample (null : Bool) (count : Nat) : Operator → Test
  | .equal => .equal (if null then none else some (.bool true))
  | .notEqual => .notEqual (if null then none else some (.bool true))
  | .greaterThan => .range .greaterThan (.bool true)
  | .greaterEqual => .range .greaterEqual (.bool true)
  | .lessThan => .range .lessThan (.bool true)
  | .lessEqual => .range .lessEqual (.bool true)
  | .contains => .text .contains ""
  | .beginsWith => .text .beginsWith ""
  | .like => .text .like ""
  | .notLike => .text .notLike ""
  | .isIn => .isIn (List.replicate count (.bool true))
  | .notIn => .notIn (List.replicate count (.bool true))

/-- The sample of the same kind as the test of a filter. -/
def Filter.sample (f : Filter) : Test :=
  .sample f.value.isNull f.value.count f.operator

theorem Filter.SameForm.sample_eq {f g : Filter} (h : f.SameForm g) : f.sample = g.sample := by
  obtain ⟨hoperator, hnull, hcount⟩ := h
  rw [Filter.sample, Filter.sample, ← hoperator]
  cases hop : f.operator with
  | equal => rw [Test.sample, Test.sample, hnull (.inl hop)]
  | notEqual => rw [Test.sample, Test.sample, hnull (.inr hop)]
  | isIn => rw [Test.sample, Test.sample, hcount (.inl hop)]
  | notIn => rw [Test.sample, Test.sample, hcount (.inr hop)]
  | _ => rfl

/-- Lists related one by one are empty together. -/
theorem isEmpty_eq_of_forall₂ {α β : Type} {R : α → β → Prop} {l : List α} {m : List β}
    (h : List.Forall₂ R l m) : l.isEmpty = m.isEmpty := by
  cases h <;> rfl

/-- A node that constrains nothing is the root, or it is in a branch. -/
theorem Criteria.any_nodes_isUnconstrained (c : Criteria) :
    c.nodes.any isUnconstrained =
      (c.isUnconstrained || (c.branches.map fun b => b.nodes.any isUnconstrained).any id) := by
  obtain ⟨filters, order, limit, offset, branches⟩ := c
  rw [nodes, List.any_cons, nodesAll_eq_flatMap, List.any_flatMap, List.any_map]
  rfl

namespace Criteria.Matched

variable {R : Filter → Filter → Prop} {c d : Criteria}

theorem isUnconstrained_eq (h : Matched R c d) : c.isUnconstrained = d.isUnconstrained := by
  obtain ⟨hfilters, hbranches⟩ := h
  rw [isUnconstrained, isUnconstrained, isEmpty_eq_of_forall₂ hfilters,
    isEmpty_eq_of_forall₂ hbranches]

/-- Whether some node constrains nothing is a matter of the shape. -/
theorem any_isUnconstrained_eq (h : Matched R c d) :
    c.nodes.any isUnconstrained = d.nodes.any isUnconstrained := by
  induction c using Criteria.induction generalizing d with
  | node filters order limit offset branches ih =>
    rw [any_nodes_isUnconstrained, any_nodes_isUnconstrained d, h.isUnconstrained_eq]
    obtain ⟨_, hbranches⟩ := h
    rw [map_eq_of_forall₂ hbranches fun b hb b' hsame => ih b hb hsame]

end Criteria.Matched

end QueryCriteria
