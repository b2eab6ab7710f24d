import QueryCriteria.Proofs.Criteria.Form
import QueryCriteria.Proofs.Dynamo.Filter
import QueryCriteria.Proofs.Dynamo.Mentions

/-!
What the placeholders of a query stand for. The maps of the query define just the placeholders that its
text holds, from the filters of the tree; the text itself depends on nothing but the form of the tree.
-/
namespace QueryCriteria

/-- The values of a filter with the number `n`, under their placeholders. -/
def Filter.bindings (n : Nat) (f : Filter) : List (String × Json) :=
  match f.test with
  | .equal none | .notEqual none => [(Dynamo.valuePlaceholder n, .text Dynamo.nullType)]
  | .isIn members | .notIn members =>
    members.zipIdx.map fun member => (Dynamo.memberPlaceholder n member.2, member.1.toJson)
  | _ => [(Dynamo.valuePlaceholder n, f.value.toJson)]

namespace Dynamo

variable {f g : Filter} {condition : Condition}

theorem eq_of_ofFilter (h : Condition.ofFilter f = .ok condition) :
    condition.field = f.field.text ∧ ∀ n, condition.clause.values n = f.bindings n := by
  obtain ⟨field, test⟩ := f
  obtain ⟨clause, hclause, h⟩ := exists_of_bind_ok h
  obtain rfl := Except.ok.inj h
  refine ⟨rfl, fun n => ?_⟩
  cases test with
  | equal operand | notEqual operand => cases operand <;> cases hclause <;> rfl
  | range relation s =>
    cases hclause
    rfl
  | text test s => cases test <;> cases hclause <;> rfl
  | isIn members | notIn members =>
    obtain ⟨values, hvalues, rfl⟩ := exists_of_map_ok hclause
    obtain ⟨-, rfl⟩ := checkMembers_eq_ok hvalues
    simp [Clause.values, Filter.bindings, List.zipIdx_map, Function.comp_def]

/-- Whether a list can be written depends on its length only. -/
private theorem toOption_checkMembers {β : Type} (field other : String) (operator : Operator)
    {members others : List Scalar} (h : members.length = others.length) {r : List Json → β}
    (hr : ∀ vs ws : List Json, vs.length = ws.length → r vs = r ws) :
    (checkMembers field operator members).toOption.map r =
      (checkMembers other operator others).toOption.map r := by
  have hempty : members.isEmpty = others.isEmpty := by
    rw [Bool.eq_iff_iff, List.isEmpty_iff_length_eq_zero, List.isEmpty_iff_length_eq_zero, h]
  unfold checkMembers
  rw [hempty, h]
  split
  · rfl
  · split
    · rfl
    · exact congrArg some (hr _ _ (by simp [h]))

private theorem text_members {vs ws : List Json} (h : vs.length = ws.length) :
    (Clause.isIn vs).text = (Clause.isIn ws).text ∧ (Clause.notIn vs).text = (Clause.notIn ws).text := by
  have hplaces (n : Nat) (vs : List Json) : ((Clause.isIn vs).values n).map (·.1) =
      (List.range' 0 vs.length).map (memberPlaceholder n) := by
    rw [Clause.values, List.map_map, ← List.zipIdx_map_snd, List.map_map]
    rfl
  have hjoin (n : Nat) : Text.join ", " (((Clause.isIn vs).values n).map (·.1)) =
      Text.join ", " (((Clause.isIn ws).values n).map (·.1)) := by
    rw [hplaces, hplaces, h]
  constructor
  · funext n
    exact congrArg (namePlaceholder n ++ " IN (" ++ · ++ ")") (hjoin n)
  · funext n
    exact congrArg ("NOT (" ++ namePlaceholder n ++ " IN (" ++ · ++ "))") (hjoin n)

/-- The text for a filter is that for its sample, and there is none for either or for both. -/
theorem text_ofFilter (f : Filter) :
    (Condition.ofFilter f).toOption.map (fun condition => condition.clause.text) =
      (Clause.ofTest "" f.sample).toOption.map Clause.text := by
  obtain ⟨field, test⟩ := f
  have hclause (made : Except StoreError Clause) :
      (do return ⟨field.text, ← made⟩ : Except StoreError Condition).toOption.map
        (fun condition => condition.clause.text) = made.toOption.map Clause.text := by
    cases made <;> rfl
  have hmap (made : Except StoreError (List Json)) (make : List Json → Clause) :
      (made.map make).toOption.map Clause.text = made.toOption.map (Clause.text ∘ make) := by
    cases made <;> rfl
  rw [Condition.ofFilter, hclause]
  cases test with
  | equal operand | notEqual operand => cases operand <;> rfl
  | range relation s => cases relation <;> rfl
  | text test s => cases test <;> rfl
  | isIn members =>
    have hlength : members.length = (List.replicate (members.map Value.scalar).length
      (Scalar.bool true)).length := by simp
    refine (hmap _ _).trans (Eq.trans ?_ (hmap _ _).symm)
    exact toOption_checkMembers _ _ _ hlength fun vs ws h => (text_members h).1
  | notIn members =>
    have hlength : members.length = (List.replicate (members.map Value.scalar).length
      (Scalar.bool true)).length := by simp
    refine (hmap _ _).trans (Eq.trans ?_ (hmap _ _).symm)
    exact toOption_checkMembers _ _ _ hlength fun vs ws h => (text_members h).2

/-- Filters of one form have one text. -/
theorem exists_ofFilter (h : f.SameForm g) (hf : Condition.ofFilter f = .ok condition) :
    ∃ other, Condition.ofFilter g = .ok other ∧ condition.clause.text = other.clause.text := by
  have htext := text_ofFilter f
  rw [h.sample_eq, ← text_ofFilter g, hf] at htext
  cases hg : Condition.ofFilter g with
  | error e =>
    rw [hg] at htext
    cases htext
  | ok other =>
    rw [hg] at htext
    exact ⟨other, rfl, Option.some.inj htext⟩

namespace Expression

theorem conditions_alternatives (es : List Expression) :
    ((alternatives es).map conditions).getD [] = es.flatMap conditions := by
  have hall (es : List Expression) : conditionsAll es = es.flatMap conditions := by
    induction es with
    | nil => rfl
    | cons e rest ih => rw [conditionsAll, ih, List.flatMap_cons]
  rcases es with _ | ⟨first, _ | ⟨second, rest⟩⟩
  · rfl
  · exact (List.append_nil (conditions first)).symm
  · exact hall (first :: second :: rest)

theorem ofBranches_eq_mapM (branches : List Criteria) :
    ofBranches branches = (branches.mapM ofCriteria).map (List.flatMap Option.toList) := by
  induction branches with
  | nil => rfl
  | cons b rest ih =>
    rw [ofBranches, List.mapM_cons, ih]
    cases ofCriteria b with
    | error e => rfl
    | ok made => cases rest.mapM ofCriteria <;> rfl

/-- The conditions of the expression of a tree are made of its filters, one by one. -/
theorem made_ofCriteria (c : Criteria) {made : Option Expression}
    (h : ofCriteria c = .ok made) :
    List.Forall₂ (fun f condition => Condition.ofFilter f = .ok condition) c.allFilters
      ((made.map conditions).getD []) := by
  induction c using Criteria.induction generalizing made with
  | node filters order limit offset branches ih =>
    rw [ofCriteria] at h
    obtain ⟨own, hown, h⟩ := exists_of_bind_ok h
    obtain ⟨es, hes, h⟩ := exists_of_bind_ok h
    obtain rfl := Except.ok.inj h
    rw [ofBranches_eq_mapM] at hes
    obtain ⟨mades, hmades, rfl⟩ := exists_of_map_ok hes
    have hbranches : List.Forall₂ (fun f condition => Condition.ofFilter f = .ok condition)
        (branches.flatMap Criteria.allFilters)
        ((mades.flatMap Option.toList).flatMap conditions) := by
      have hpaired := (List.forall₂_and_left _ _).mpr ⟨ih, forall₂_of_mapM_ok hmades⟩
      rw [List.flatMap_assoc]
      refine List.rel_flatMap hpaired ?_
      rintro b made ⟨ihb, hb⟩
      have hmade := ihb hb
      cases made with
      | none => exact hmade
      | some e => simpa using hmade
    have hfirst : (if own.isEmpty then [] else [conjunction own]).flatMap conditions = own := by
      cases own with
      | nil => rfl
      | cons condition rest => exact List.append_nil _
    rw [conditions_alternatives, List.flatMap_append, hfirst, Criteria.allFilters_eq]
    exact List.rel_append (forall₂_of_mapM_ok hown) hbranches

/-- One text, wherever the numbers begin, and as many conditions. -/
structure SameText (e e' : Expression) : Prop where
  text : ∀ n, e.text n = e'.text n
  length : e.conditions.length = e'.conditions.length

theorem SameText.conjunction {as bs : List Condition}
    (h : List.Forall₂ (fun a b => a.clause.text = b.clause.text) as bs) :
    SameText (.conjunction as) (.conjunction bs) where
  text n := by
    have htexts : (as.zipIdx n).map (fun numbered => numbered.1.clause.text numbered.2) =
        (bs.zipIdx n).map fun numbered => numbered.1.clause.text numbered.2 := by
      induction h generalizing n with
      | nil => rfl
      | cons hfirst _ ih =>
        rw [List.zipIdx_cons, List.zipIdx_cons, List.map_cons, List.map_cons, hfirst, ih]
    rw [Expression.text, Expression.text, htexts]
  length := h.length_eq

theorem SameText.disjunction {es fs : List Expression} (h : List.Forall₂ SameText es fs) :
    SameText (.disjunction es) (.disjunction fs) where
  text n := by
    have htexts : textAll n es = textAll n fs := by
      induction h generalizing n with
      | nil => rfl
      | cons hfirst _ ih => rw [textAll, textAll, hfirst.text, hfirst.length, ih]
    rw [Expression.text, Expression.text, htexts]
  length := by
    have hlengths : (conditionsAll es).length = (conditionsAll fs).length := by
      induction h with
      | nil => rfl
      | cons hfirst _ ih =>
        rw [conditionsAll, conditionsAll, List.length_append, List.length_append, hfirst.length, ih]
    rw [conditions, conditions, hlengths]

theorem SameText.alternatives {es fs : List Expression} (h : List.Forall₂ SameText es fs) :
    Option.Rel SameText (alternatives es) (alternatives fs) := by
  cases h with
  | nil => exact .none
  | cons hfirst hrest =>
    cases hrest with
    | nil => exact .some hfirst
    | cons hsecond hrest => exact .some (SameText.disjunction (.cons hfirst (.cons hsecond hrest)))

/-- Trees of one form have expressions of one text, or both have none. -/
theorem exists_ofCriteria {c d : Criteria} (h : c.SameForm d) {made : Option Expression}
    (hc : ofCriteria c = .ok made) :
    ∃ other, ofCriteria d = .ok other ∧ Option.Rel SameText made other := by
  induction c using Criteria.induction generalizing d made with
  | node filters order limit offset branches ih =>
    obtain ⟨filters', order', limit', offset', branches'⟩ := d
    obtain ⟨hfilters, hbranches⟩ := h
    rw [ofCriteria] at hc
    obtain ⟨as, has, hc⟩ := exists_of_bind_ok hc
    obtain ⟨es, hes, hc⟩ := exists_of_bind_ok hc
    obtain rfl := Except.ok.inj hc
    have hfilter : ∀ f ∈ filters, ∀ g, f.SameForm g → ∀ a, Condition.ofFilter f = .ok a →
        ∃ b, Condition.ofFilter g = .ok b ∧ a.clause.text = b.clause.text :=
      fun f _ g hfg a ha => exists_ofFilter hfg ha
    obtain ⟨bs, hbs, htexts⟩ := exists_of_mapM_ok hfilters has hfilter
    rw [ofBranches_eq_mapM] at hes
    obtain ⟨mades, hmades, rfl⟩ := exists_of_map_ok hes
    have hbranch : ∀ b ∈ branches, ∀ b', b.SameForm b' → ∀ made, ofCriteria b = .ok made →
        ∃ other, ofCriteria b' = .ok other ∧ Option.Rel SameText made other :=
      fun b hb b' hsame made hmade => ih b hb hsame hmade
    obtain ⟨others, hothers, hrel⟩ := exists_of_mapM_ok hbranches hmades hbranch
    have hbelow : List.Forall₂ SameText (mades.flatMap Option.toList) (others.flatMap Option.toList) := by
      refine List.rel_flatMap hrel ?_
      intro made other hsame
      cases hsame with
      | none => exact .nil
      | some h => exact .cons h .nil
    have hown : List.Forall₂ SameText (if as.isEmpty then [] else [.conjunction as])
        (if bs.isEmpty then [] else [.conjunction bs]) := by
      cases htexts with
      | nil => exact .nil
      | cons hfirst hrest => exact .cons (SameText.conjunction (.cons hfirst hrest)) .nil
    refine ⟨_, ?_, SameText.alternatives (List.rel_append hown hbelow)⟩
    rw [ofCriteria, hbs, ofBranches_eq_mapM, hothers]
    rfl

end Expression

/-- A query with an expression was made of a tree without an order that constrains every node. -/
theorem exists_of_filter {c : Criteria} {query : Query} (hq : Query.ofCriteria c = .ok query)
    {text : String} (ht : query.filter = some text) :
    c.order.isOrdered = false ∧ c.nodes.any Criteria.isUnconstrained = false ∧
      ∃ e, Expression.ofCriteria c = .ok (some e) ∧ query = .ofExpression e ∧ text = e.text 0 := by
  unfold Query.ofCriteria at hq
  split at hq
  · cases hq
  · split at hq
    · obtain rfl := Except.ok.inj hq
      cases ht
    · rename_i hordered hany
      obtain ⟨made, hmade, hq⟩ := exists_of_bind_ok hq
      cases made with
      | none =>
        obtain rfl := Except.ok.inj hq
        cases ht
      | some e =>
        obtain rfl := Except.ok.inj hq
        exact ⟨by simpa using hordered, by simpa using hany, e, hmade, rfl, (Option.some.inj ht).symm⟩

/-- What stands at some place of one list, and what stands there in a list related to it. -/
private theorem exists_place_iff {α β : Type} {R : α → β → Prop} {l : List α} {m : List β}
    (h : List.Forall₂ R l m) {P : Nat → α → Prop} {Q : Nat → β → Prop}
    (hPQ : ∀ i a b, R a b → (Q i b ↔ P i a)) :
    (∃ (i : Nat) (b : β), m[i]? = some b ∧ Q i b) ↔ ∃ (i : Nat) (a : α), l[i]? = some a ∧ P i a := by
  have hplace (i : Nat) : Option.Rel R l[i]? m[i]? := by
    induction h generalizing i with
    | nil => exact .none
    | cons hab _ ih =>
      cases i with
      | zero => exact .some hab
      | succ i => exact ih i
  refine exists_congr fun i => ?_
  have hi := hplace i
  cases hl : l[i]? with
  | none =>
    rw [hl] at hi
    cases hm : m[i]? with
    | none => simp
    | some b =>
      rw [hm] at hi
      cases hi
  | some a =>
    rw [hl] at hi
    cases hm : m[i]? with
    | none =>
      rw [hm] at hi
      cases hi
    | some b =>
      rw [hm] at hi
      cases hi with
      | some hab => simp [hPQ i a b hab]

private theorem mem_placesFrom_iff {e : Expression} {place : String} :
    place ∈ Expression.placesFrom 0 e.conditions ↔ place ∈ e.names.keys ∨ place ∈ e.values.keys := by
  simp only [Expression.placesFrom, Entries.keys, List.mem_flatMap, List.mem_map, Prod.exists,
    List.mem_zipIdx_iff_getElem?, mem_mentions_iff, Expression.mem_names_iff,
    Expression.mem_values_iff, Prod.mk.injEq]
  constructor
  · rintro ⟨condition, i, hi, rfl | ⟨key, value, hmem, rfl⟩⟩
    · exact .inl ⟨_, _, ⟨i, condition, hi, rfl, rfl⟩, rfl⟩
    · exact .inr ⟨_, _, ⟨i, condition, hi, hmem⟩, rfl⟩
  · rintro (⟨_, _, ⟨i, condition, hi, rfl, rfl⟩, rfl⟩ | ⟨key, value, ⟨i, condition, hi, hmem⟩, rfl⟩)
    · exact ⟨condition, i, hi, .inl rfl⟩
    · exact ⟨condition, i, hi, .inr ⟨key, value, hmem, rfl⟩⟩

/--
The filters of a tree are numbered in the order of the tree. The query defines the name placeholder of
each number as the field of the filter, and its value placeholders as the values; nothing else is
defined, and the text holds just what is defined. It is the text for every tree of the same form.
-/
theorem placeholders_defined {c : Criteria} {query : Query} (hq : Query.ofCriteria c = .ok query)
    {text : String} (ht : query.filter = some text) :
    query.names.Ascending ∧ query.values.Ascending ∧
    (∀ entry, entry ∈ query.names ↔
      ∃ (i : Nat) (f : Filter), c.allFilters[i]? = some f ∧ entry = (namePlaceholder i, f.field.text)) ∧
    (∀ entry, entry ∈ query.values ↔
      ∃ (i : Nat) (f : Filter), c.allFilters[i]? = some f ∧ entry ∈ f.bindings i) ∧
    (∃ places, Mentions text places ∧
      ∀ place, place ∈ places ↔ place ∈ query.names.keys ∨ place ∈ query.values.keys) ∧
    ∀ d : Criteria, c.SameForm d → d.order.isOrdered = false →
      ∃ other, Query.ofCriteria d = .ok other ∧ other.filter = some text := by
  obtain ⟨hordered, hany, e, he, rfl, rfl⟩ := exists_of_filter hq ht
  have hmade : List.Forall₂ (fun f condition => Condition.ofFilter f = .ok condition) c.allFilters
      e.conditions := Expression.made_ofCriteria c he
  refine ⟨Entries.ascending_ofList _, Entries.ascending_ofList _, fun entry => ?_, fun entry => ?_,
    ⟨_, e.mentions_text 0, fun place => mem_placesFrom_iff⟩, fun d hd hd' => ?_⟩
  · refine Expression.mem_names_iff.trans (exists_place_iff hmade fun i f condition h => ?_)
    rw [(eq_of_ofFilter h).1]
  · refine Expression.mem_values_iff.trans (exists_place_iff hmade fun i f condition h => ?_)
    rw [(eq_of_ofFilter h).2]
  · obtain ⟨other, hother, hrel⟩ := Expression.exists_ofCriteria hd he
    cases hrel with
    | some hsame =>
      refine ⟨.ofExpression _, ?_, congrArg some (hsame.text 0).symm⟩
      rw [Query.ofCriteria, hd', ← hd.any_isUnconstrained_eq, hany, hother]
      rfl

theorem placeholders_defined_admitted :
    ∃ query, Query.ofCriteria .admitted = .ok query ∧
      query.filter = some ("(#f0 >= :v0) OR (NOT (#f1 IN (:v1_0)) AND " ++
        "(attribute_exists(#f2) AND NOT attribute_type(#f2, :v2)))") ∧
      (∀ entry, entry ∈ query.names ↔ ∃ (i : Nat) (f : Filter),
        Criteria.admitted.allFilters[i]? = some f ∧ entry = (namePlaceholder i, f.field.text)) ∧
      ∀ entry, entry ∈ query.values ↔ ∃ (i : Nat) (f : Filter),
        Criteria.admitted.allFilters[i]? = some f ∧ entry ∈ f.bindings i := by
  have hdefined := placeholders_defined (c := .admitted) rfl rfl
  exact ⟨_, rfl, by decide, hdefined.2.2.1, hdefined.2.2.2.1⟩

end Dynamo

end QueryCriteria
