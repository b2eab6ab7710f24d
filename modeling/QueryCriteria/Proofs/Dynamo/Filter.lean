import QueryCriteria.Dynamo.Query
import QueryCriteria.Proofs.Dynamo.Reads
import QueryCriteria.Proofs.Matching.Tree
import QueryCriteria.Proofs.Places
import QueryCriteria.Proofs.Success

/-!
The meaning of filter expressions. An item passes the expression of a criteria tree if the tree
selects the record that the item stores; a tree without an expression selects every record.
-/
namespace QueryCriteria.Dynamo

open Text (Formula)

variable {evaluator : Evaluator}

theorem checkMembers_eq_ok {field : String} {operator : Operator} {members : List Scalar}
    {values : List Json} (h : checkMembers field operator members = .ok values) :
    members ≠ [] ∧ values = members.map Scalar.toJson := by
  unfold checkMembers at h
  split at h
  · cases h
  · split at h
    · cases h
    · rename_i hne _
      exact ⟨fun he => hne (by simp [he]), (Except.ok.inj h).symm⟩

/-- The values of a clause that was made for a test are never none at all. -/
theorem values_ne_nil {field : String} {test : Test} {clause : Clause}
    (h : Clause.ofTest field test = .ok clause) (n : Nat) : clause.values n ≠ [] := by
  cases test with
  | equal operand | notEqual operand => cases operand <;> cases h <;> exact List.cons_ne_nil _ _
  | range relation s =>
    cases h
    exact List.cons_ne_nil _ _
  | text test s => cases test <;> cases h <;> exact List.cons_ne_nil _ _
  | isIn members | notIn members =>
    obtain ⟨values, hvalues, rfl⟩ := exists_of_map_ok h
    obtain ⟨hne, rfl⟩ := checkMembers_eq_ok hvalues
    simpa [Clause.values] using hne

variable {item : String → Option Json} {field : String}

private theorem any_typeName (stored : Option Json) :
    stored.any (fun value => (Json.text nullType).text? == some (typeName value)) =
      stored.any Json.isNull := by
  cases stored with
  | none => rfl
  | some value => cases value <;> rfl

private theorem ne_null_of_mem {members : List Scalar} (h : ∀ s ∈ members, s.isFinite = true) :
    ∀ m ∈ members.map Scalar.toJson, m ≠ .null := by
  intro m hm
  obtain ⟨s, hs, rfl⟩ := List.mem_map.mp hm
  exact Scalar.toJson_ne_null (h s hs)

private theorem isIn_eq (h : evaluator.Lawful) {members : List Scalar}
    (hf : ∀ s ∈ members, s.isFinite = true) :
    evaluator.isIn (item field) (members.map Scalar.toJson) =
      (Test.isIn members).holds ((item field).getD .null) := by
  rw [h.isIn_eq (item field) (ne_null_of_mem hf), List.any_map]
  rfl

/-- The clause of a test holds of an item exactly if the test holds of the attribute. -/
theorem holds_formula (h : evaluator.Lawful) {test : Test} (hf : test.IsFinite) {clause : Clause}
    (hc : Clause.ofTest field test = .ok clause) :
    holds evaluator item (clause.formula field) = test.holds ((item field).getD .null) := by
  cases test with
  | equal operand =>
    cases operand with
    | none =>
      cases hc
      simp only [Clause.formula, holds, Predicate.holds, any_typeName]
      cases item field with
      | none => rfl
      | some value => cases value <;> rfl
    | some s =>
      cases hc
      have hs : s.toJson ≠ .null := Scalar.toJson_ne_null (hf s (by simp [Test.operands]))
      exact h.compare_eq .equal (item field) hs
  | notEqual operand =>
    cases operand with
    | none =>
      cases hc
      simp only [Clause.formula, holds, Predicate.holds, any_typeName]
      cases item field with
      | none => rfl
      | some value => cases value <;> rfl
    | some s =>
      cases hc
      have hs : s.toJson ≠ .null := Scalar.toJson_ne_null (hf s (by simp [Test.operands]))
      exact h.compare_eq .distinct (item field) hs
  | range relation s =>
    cases hc
    have hs : s.toJson ≠ .null := Scalar.toJson_ne_null (hf s (by simp [Test.operands]))
    exact h.compare_eq (.range relation) (item field) hs
  | text test s =>
    cases test with
    | contains =>
      cases hc
      exact h.contains_eq (item field) s
    | beginsWith =>
      cases hc
      exact h.beginsWith_eq (item field) s
    | like => cases hc
    | notLike => cases hc
  | isIn members =>
    obtain ⟨values, hvalues, rfl⟩ := exists_of_map_ok hc
    obtain ⟨-, rfl⟩ := checkMembers_eq_ok hvalues
    exact isIn_eq h hf
  | notIn members =>
    obtain ⟨values, hvalues, rfl⟩ := exists_of_map_ok hc
    obtain ⟨-, rfl⟩ := checkMembers_eq_ok hvalues
    exact congrArg (!·) (isIn_eq h hf)

/-- An expression that is read as `p` wherever its conditions stand within the whole one. -/
def Means (whole : Expression) (evaluator : Evaluator) (item : String → Option Json)
    (e : Expression) (p : Prop) : Prop :=
  ∀ n, e.conditions <+: whole.conditions.drop n →
    Reads whole evaluator item .disjunction (e.text n) p

variable {whole : Expression}

private theorem reads_numbered {conditions : List Condition} {ps : List Prop}
    (h : List.Forall₂ (fun condition p => (∀ n, condition.clause.values n ≠ []) ∧
      (holds evaluator item (condition.clause.formula condition.field) = true ↔ p)) conditions ps)
    {n : Nat} (hn : conditions <+: whole.conditions.drop n) :
    List.Forall₂ (fun text p => Reads whole evaluator item .negation text (id p))
      ((conditions.zipIdx n).map fun numbered => numbered.1.clause.text numbered.2) ps := by
  induction h generalizing n with
  | nil => exact .nil
  | cons hp _ ih =>
    rw [List.zipIdx_cons, List.map_cons]
    exact .cons ((reads_clause (place_head hn) (hp.1 n)).congr hp.2) (ih (places_tail hn))

/-- A conjunction means that the filters hold of which its conditions were made. -/
theorem means_conjunction {conditions : List Condition} {ps : List Prop}
    (h : List.Forall₂ (fun condition p => (∀ n, condition.clause.values n ≠ []) ∧
      (holds evaluator item (condition.clause.formula condition.field) = true ↔ p)) conditions ps)
    (hne : conditions ≠ []) :
    Means whole evaluator item (.conjunction conditions) (∀ p ∈ ps, p) := by
  intro n hn
  have htexts : ((conditions.zipIdx n).map fun numbered => numbered.1.clause.text numbered.2) ≠ [] := by
    simpa using hne
  exact (Reads.conjoin (reads_numbered h hn) htexts).disjunction

private theorem reads_bracketed {es : List Expression} {ps : List Prop}
    (h : List.Forall₂ (Means whole evaluator item) es ps) {n : Nat}
    (hn : Expression.conditionsAll es <+: whole.conditions.drop n) :
    List.Forall₂ (fun text p => Reads whole evaluator item .conjunction text (id p))
      (Expression.textAll n es) ps := by
  induction h generalizing n with
  | nil => exact .nil
  | cons hp _ ih =>
    obtain ⟨hfirst, hrest⟩ := places_append hn
    exact .cons (hp n hfirst).bracket (ih hrest)

/-- Alternatives mean that one of them holds. -/
theorem means_alternatives {es : List Expression} {ps : List Prop}
    (h : List.Forall₂ (Means whole evaluator item) es ps) {e : Expression}
    (he : Expression.alternatives es = some e) : Means whole evaluator item e (∃ p ∈ ps, p) := by
  match es, h with
  | [], .nil => cases he
  | [first], .cons hp .nil =>
    obtain rfl : first = e := Option.some.inj he
    intro n hn
    refine (hp n hn).congr ⟨fun h => ⟨_, List.mem_singleton_self _, h⟩, ?_⟩
    rintro ⟨p, hmem, h⟩
    exact List.mem_singleton.mp hmem ▸ h
  | first :: second :: rest, hall =>
    obtain rfl : Expression.disjunction (first :: second :: rest) = e := Option.some.inj he
    intro n hn
    exact Reads.disjoin (reads_bracketed hall hn) (List.cons_ne_nil _ _)

private theorem made_ofFilter (h : evaluator.Lawful) {record : Record} {filter : Filter}
    (hf : filter.Fits record) {condition : Condition}
    (hc : Condition.ofFilter filter = .ok condition) :
    (∀ n, condition.clause.values n ≠ []) ∧
      (holds evaluator (Entries.get? record) (condition.clause.formula condition.field) = true ↔
        filter.holds record = true) := by
  obtain ⟨clause, hclause, hc⟩ := exists_of_bind_ok hc
  obtain rfl := Except.ok.inj hc
  refine ⟨values_ne_nil hclause, ?_⟩
  rw [Filter.holds_eq_column hf.reaches, holds_formula h hf.finite hclause]
  rfl

private theorem means_ofFilters (h : evaluator.Lawful) {record : Record} {filters : Filters}
    (hf : ∀ f ∈ filters, f.Fits record) {conditions : List Condition}
    (hc : filters.mapM Condition.ofFilter = .ok conditions) :
    List.Forall₂ (Means whole evaluator (Entries.get? record))
      (if conditions.isEmpty then [] else [.conjunction conditions])
      (if filters = [] then [] else [∀ f ∈ filters, f.holds record = true]) := by
  have hmade := forall₂_of_mapM_ok hc
  have hall : List.Forall₂ (fun condition p => (∀ n, condition.clause.values n ≠ []) ∧
      (holds evaluator (Entries.get? record) (condition.clause.formula condition.field) = true ↔ p))
      conditions (filters.map fun f => f.holds record = true) := by
    clear hc
    induction hmade with
    | nil => exact .nil
    | cons hfirst _ ih =>
      obtain ⟨hfits, hrest⟩ := List.forall_mem_cons.mp hf
      exact .cons (made_ofFilter h hfits hfirst) (ih hrest)
  cases hmade with
  | nil => exact .nil
  | @cons f condition filters conditions _ _ =>
    have hmeans : Means whole evaluator (Entries.get? record) _ _ :=
      means_conjunction hall (List.cons_ne_nil _ _)
    refine .cons (fun n hn => (hmeans n hn).congr ?_) .nil
    simp only [List.forall_mem_map]

private theorem means_ofBranches {record : Record} {branches : List Criteria}
    (ih : ∀ b ∈ branches, ∀ made, Expression.ofCriteria b = .ok made → ∃ e, made = some e ∧
      Means whole evaluator (Entries.get? record) e (b.selects record = true))
    {es : List Expression} (he : Expression.ofBranches branches = .ok es) :
    List.Forall₂ (Means whole evaluator (Entries.get? record)) es
      (branches.map fun b => b.selects record = true) := by
  induction branches generalizing es with
  | nil =>
    cases he
    exact .nil
  | cons b rest ihb =>
    obtain ⟨hfirst, hrest⟩ := List.forall_mem_cons.mp ih
    rw [Expression.ofBranches] at he
    obtain ⟨made, hmade, he⟩ := exists_of_bind_ok he
    obtain ⟨others, hothers, he⟩ := exists_of_bind_ok he
    obtain rfl := Except.ok.inj he
    obtain ⟨e, rfl, hmeans⟩ := hfirst made hmade
    exact .cons hmeans (ihb hrest hothers)

private theorem exists_alternatives {es : List Expression} (h : es ≠ []) :
    ∃ e, Expression.alternatives es = some e := by
  match es with
  | [e] => exact ⟨e, rfl⟩
  | e :: f :: rest => exact ⟨.disjunction (e :: f :: rest), rfl⟩

/-- The expression of a tree means that the tree selects the record that an item stores. -/
theorem means_ofCriteria (h : evaluator.Lawful) {record : Record} (c : Criteria)
    (hf : ∀ f ∈ c.allFilters, f.Fits record) (hn : ∀ n ∈ c.nodes, n.isUnconstrained = false)
    {made : Option Expression} (hc : Expression.ofCriteria c = .ok made) :
    ∃ e, made = some e ∧ ∀ whole,
      Means whole evaluator (Entries.get? record) e (c.selects record = true) := by
  induction c using Criteria.induction generalizing made with
  | node filters order limit offset branches ih =>
    obtain ⟨hown, hbelow⟩ := Criteria.forall_allFilters.mp hf
    obtain ⟨hroot, hnodes⟩ := Criteria.forall_nodes.mp hn
    have hconstrained : ¬ (filters = [] ∧ branches = []) := fun hu => by
      rw [Criteria.isUnconstrained_iff.mpr hu] at hroot
      cases hroot
    rw [Expression.ofCriteria] at hc
    obtain ⟨conditions, hconditions, hc⟩ := exists_of_bind_ok hc
    obtain ⟨es, hes, hc⟩ := exists_of_bind_ok hc
    obtain rfl := Except.ok.inj hc
    have hways (whole : Expression) : List.Forall₂ (Means whole evaluator (Entries.get? record))
        ((if conditions.isEmpty then [] else [.conjunction conditions]) ++ es)
        (Criteria.ways record ⟨filters, order, limit, offset, branches⟩) := by
      refine List.rel_append (means_ofFilters h hown hconditions) (means_ofBranches ?_ hes)
      intro b hb made hmade
      obtain ⟨e, he, hmeans⟩ := ih b hb (hbelow b hb) (hnodes b hb) hmade
      exact ⟨e, he, hmeans whole⟩
    have hne : (if conditions.isEmpty then [] else [.conjunction conditions]) ++ es ≠ [] := by
      intro hnil
      have hnone := hways (.disjunction [])
      rw [hnil] at hnone
      exact Criteria.ways_ne_nil hconstrained (List.forall₂_nil_left_iff.mp hnone)
    obtain ⟨e, he⟩ := exists_alternatives hne
    refine ⟨e, he, fun whole n hn => ?_⟩
    have hselects : (Criteria.selects record ⟨filters, order, limit, offset, branches⟩ = true) ↔
        ∃ p ∈ Criteria.ways record ⟨filters, order, limit, offset, branches⟩, p :=
      Criteria.selects_iff_ways hconstrained
    exact (means_alternatives (hways whole) he n hn).congr hselects.symm

/--
The query of a tree without an expression passes every item, and so the tree selects every record.
Otherwise the text of the expression spells, with its placeholders resolved, a formula that holds of
an item if the tree selects the record that the item stores.
-/
theorem filter_selects (h : evaluator.Lawful) {c : Criteria} {query : Query}
    (hq : Query.ofCriteria c = .ok query) (record : Record)
    (hf : ∀ f ∈ c.allFilters, f.Fits record) :
    (query.filter = none → ∀ other : Record, c.selects other = true) ∧
    ∀ text, query.filter = some text →
      ∃ expression, readExpression query.names query.values text = some expression ∧
        (holds evaluator (Entries.get? record) expression = true ↔ c.selects record = true) := by
  unfold Query.ofCriteria at hq
  split at hq
  · cases hq
  · split at hq
    · rename_i _ hany
      obtain rfl := Except.ok.inj hq
      refine ⟨fun _ other => ?_, nofun⟩
      obtain ⟨n, hn, hu⟩ := List.any_eq_true.mp hany
      exact Criteria.selects_of_node c hn hu
    · rename_i _ hany
      have hnodes : ∀ n ∈ c.nodes, n.isUnconstrained = false := by simpa using hany
      obtain ⟨made, hmade, hq⟩ := exists_of_bind_ok hq
      obtain ⟨e, rfl, hmeans⟩ := means_ofCriteria h c hf hnodes hmade
      obtain rfl := Except.ok.inj hq
      refine ⟨nofun, fun text ht => ?_⟩
      obtain rfl := Option.some.inj ht
      obtain ⟨ls, hls, hdenotes⟩ := hmeans e 0 List.prefix_rfl
      obtain ⟨expression, hread, hholds⟩ := hdenotes.read
      refine ⟨expression, ?_, hholds⟩
      rw [readExpression, hls]
      exact hread

theorem filter_selects_admitted :
    ∃ query, Query.ofCriteria .admitted = .ok query ∧ Evaluator.direct.Lawful ∧
      (∀ f ∈ Criteria.admitted.allFilters,
        f.Fits [("age", .ofInt64 12), ("name", .text "Ada")]) ∧
      ∀ text, query.filter = some text →
        ∃ expression, readExpression query.names query.values text = some expression ∧
          (holds Evaluator.direct (Entries.get? [("age", .ofInt64 12), ("name", .text "Ada")])
            expression = true ↔
              Criteria.admitted.selects [("age", .ofInt64 12), ("name", .text "Ada")] = true) :=
  ⟨_, rfl, Evaluator.direct_lawful, fun f hf => (Criteria.admitted_fits f hf).toFits,
    (filter_selects Evaluator.direct_lawful rfl _ fun f hf => (Criteria.admitted_fits f hf).toFits).2⟩

end QueryCriteria.Dynamo
