import QueryCriteria.Proofs.Dynamo.Definitions

/-!
Criteria that have no filter expression. Scans are in no order, and the service knows neither patterns nor
lists of any length. An order is refused before all else; a node that constrains nothing makes the query
that every item passes, whatever the other nodes hold; and otherwise the first filter that the service
cannot evaluate is refused, in the order of the tree.
-/
namespace QueryCriteria

/-- In a tree without a node that constrains nothing there are filters. -/
theorem Criteria.allFilters_ne_nil {c : Criteria} (h : ∀ n ∈ c.nodes, n.isUnconstrained = false) :
    c.allFilters ≠ [] := by
  induction c using Criteria.induction with
  | node filters order limit offset branches ih =>
    obtain ⟨hroot, hbelow⟩ := forall_nodes.mp h
    rw [allFilters_eq]
    cases filters with
    | cons f rest => exact List.cons_ne_nil _ _
    | nil =>
      cases branches with
      | nil => cases hroot
      | cons b rest =>
        have hfirst := ih b List.mem_cons_self (hbelow b List.mem_cons_self)
        simp [hfirst]

namespace Dynamo

variable {f : Filter} {e : StoreError} {c : Criteria}

/-- The test compares with a pattern, or with a list that is empty or has more than 100 members. -/
def Unanswerable : Test → Prop
  | .text test _ => test = .like ∨ test = .notLike
  | .isIn members | .notIn members => members = [] ∨ 100 < members.length
  | _ => False

/-- What is said of a list that is empty or too long. -/
def listRefusal (subject : String) (members : List Scalar) : StoreError :=
  if members = [] then .inexpressible backendName (subject ++ " needs at least one value")
  else .inexpressible backendName (subject ++ " has " ++ toString members.length
    ++ " values; at most " ++ toString maxMembers ++ " are allowed")

/-- What is said of a filter that the service cannot evaluate. -/
def refusal (f : Filter) : StoreError :=
  match f.test with
  | .isIn members | .notIn members =>
    listRefusal (f.operator.token ++ " on '" ++ f.field.text ++ "'") members
  | _ => .unsupportedOperator backendName f.operator.token

theorem kind_listRefusal (subject : String) (members : List Scalar) :
    (listRefusal subject members).kind = .inexpressible := by
  unfold listRefusal
  split <;> rfl

/-- Lists cannot be expressed, and other operators are not supported. -/
theorem kind_refusal (f : Filter) :
    (refusal f).kind = if f.operator.takesList then .inexpressible else .unsupportedOperator := by
  obtain ⟨field, test⟩ := f
  cases test with
  | isIn members | notIn members => exact kind_listRefusal _ members
  | text test s => cases test <;> rfl
  | range relation s => cases relation <;> rfl
  | equal operand | notEqual operand => rfl

theorem checkMembers_eq (field : String) (operator : Operator) (members : List Scalar) :
    checkMembers field operator members =
      if members = [] ∨ 100 < members.length then
        .error (listRefusal (operator.token ++ " on '" ++ field ++ "'") members)
      else .ok (members.map Scalar.toJson) := by
  unfold checkMembers listRefusal
  cases members with
  | nil => rfl
  | cons first rest => simp [maxMembers]

theorem ofFilter_eq_error_iff :
    Condition.ofFilter f = .error e ↔ Unanswerable f.test ∧ e = refusal f := by
  obtain ⟨field, test⟩ := f
  have hclause : Condition.ofFilter ⟨field, test⟩ = .error e ↔
      Clause.ofTest field.text test = .error e := by
    refine bind_eq_error_iff.trans (or_iff_left ?_)
    rintro ⟨clause, _, h⟩
    cases h
  have hlist (operator : Operator) (members : List Scalar) (make : List Json → Clause) :
      (checkMembers field.text operator members).map make = .error e ↔
        (members = [] ∨ 100 < members.length) ∧
          e = listRefusal (operator.token ++ " on '" ++ field.text ++ "'") members := by
    rw [map_eq_error_iff, checkMembers_eq]
    split
    · rename_i hlength
      simp [hlength, eq_comm]
    · rename_i hlength
      simp [hlength]
  rw [hclause]
  cases test with
  | isIn members => exact hlist .isIn members .isIn
  | notIn members => exact hlist .notIn members .notIn
  | text test s =>
    cases test with
    | like | notLike => simp [Clause.ofTest, Unanswerable, refusal, Filter.operator, Test.operator, eq_comm]
    | contains | beginsWith => simp [Clause.ofTest, Unanswerable]
  | equal operand | notEqual operand => cases operand <;> simp [Clause.ofTest, Unanswerable]
  | range relation s => simp [Clause.ofTest, Unanswerable]

theorem exists_ofFilter_iff : (∃ condition, Condition.ofFilter f = .ok condition) ↔ ¬ Unanswerable f.test := by
  cases h : Condition.ofFilter f with
  | ok condition =>
    refine iff_of_true ⟨condition, rfl⟩ fun hf => ?_
    rw [ofFilter_eq_error_iff.mpr ⟨hf, rfl⟩] at h
    cases h
  | error e =>
    refine iff_of_false ?_ (not_not_intro (ofFilter_eq_error_iff.mp h).1)
    rintro ⟨condition, h⟩
    cases h

namespace Expression

private theorem check_append (l m : Filters) :
    ((l ++ m).mapM Condition.ofFilter).map (fun _ => ()) =
      (do
        let _ ← l.mapM Condition.ofFilter
        (m.mapM Condition.ofFilter).map fun _ => ()) := by
  rw [List.mapM_append]
  cases l.mapM Condition.ofFilter with
  | error e => rfl
  | ok first => cases m.mapM Condition.ofFilter <;> rfl

/-- Whether a tree has an expression, or which error it is refused with, is up to the list of its filters. -/
theorem check_ofCriteria (c : Criteria) :
    (ofCriteria c).map (fun _ => ()) = (c.allFilters.mapM Condition.ofFilter).map fun _ => () := by
  induction c using Criteria.induction with
  | node filters order limit offset branches ih =>
    have hbranches : (ofBranches branches).map (fun _ => ()) =
        ((branches.flatMap Criteria.allFilters).mapM Condition.ofFilter).map fun _ => () := by
      induction branches with
      | nil => rfl
      | cons b rest ihrest =>
        obtain ⟨hb, hrest⟩ := List.forall_mem_cons.mp ih
        rw [List.flatMap_cons, check_append, ← ihrest hrest, ofBranches]
        cases hmade : ofCriteria b with
        | error e =>
          rw [hmade] at hb
          rw [map_eq_error_iff.mp hb.symm]
          rfl
        | ok made =>
          rw [hmade] at hb
          obtain ⟨conditions, hconditions, _⟩ := exists_of_map_ok hb.symm
          rw [hconditions]
          cases ofBranches rest <;> rfl
    rw [Criteria.allFilters_eq, check_append, ← hbranches, ofCriteria]
    cases filters.mapM Condition.ofFilter with
    | error e => rfl
    | ok conditions => cases ofBranches branches <;> rfl

theorem ofCriteria_eq_error_iff :
    ofCriteria c = .error e ↔ c.allFilters.mapM Condition.ofFilter = .error e := by
  rw [← map_eq_error_iff, check_ofCriteria, map_eq_error_iff]

/-- Without conditions there would be nothing in the text, and with conditions there are placeholders. -/
theorem text_ne_empty {expression : Expression} (h : expression.conditions ≠ []) (n : Nat) :
    expression.text n ≠ "" := by
  intro hempty
  obtain ⟨ls, hls, hplaces⟩ := mentions_text expression n
  rw [hempty] at hls
  obtain rfl : [] = ls := Option.some.inj hls
  cases hconditions : expression.conditions with
  | nil => exact h hconditions
  | cons condition rest =>
    have hmention : namePlaceholder n ∈ placesFrom n expression.conditions := by
      rw [hconditions, placesFrom, List.zipIdx_cons, List.flatMap_cons]
      exact List.mem_append_left _ (mem_mentions_iff.mpr (.inl rfl))
    rw [← hplaces] at hmention
    exact absurd hmention List.not_mem_nil

/-- A tree in which every node constrains something has an expression with conditions, if it has any. -/
theorem exists_conditions (hn : ∀ n ∈ c.nodes, n.isUnconstrained = false) {made : Option Expression}
    (h : ofCriteria c = .ok made) : ∃ expression, made = some expression ∧ expression.conditions ≠ [] := by
  have hmade := made_ofCriteria c h
  have hfilters := Criteria.allFilters_ne_nil hn
  cases made with
  | none => exact absurd (List.forall₂_nil_right_iff.mp hmade) hfilters
  | some expression =>
    refine ⟨expression, rfl, fun hnil => hfilters ?_⟩
    rw [Option.map_some, Option.getD_some, hnil] at hmade
    exact List.forall₂_nil_right_iff.mp hmade

end Expression

/--
An order is refused as inexpressible. Otherwise a node without filters and branches makes the query empty.
Otherwise the query is refused just if the service cannot evaluate one of the filters, with what is said of
the first such filter: that its list is inexpressible, or that its operator is not supported. If the query
is not refused, it has an expression that is not empty.
-/
theorem refused_at_first_unanswerable (c : Criteria) :
    (c.order.isOrdered = true → ∃ e, Query.ofCriteria c = .error e ∧ e.kind = .inexpressible) ∧
    (c.order.isOrdered = false → (∃ n ∈ c.nodes, n.filters = [] ∧ n.branches = []) →
      Query.ofCriteria c = .ok .everything) ∧
    (c.order.isOrdered = false → (∀ n ∈ c.nodes, ¬ (n.filters = [] ∧ n.branches = [])) →
      (∀ e, Query.ofCriteria c = .error e ↔ ∃ before f after, c.allFilters = before ++ f :: after ∧
        (∀ g ∈ before, ¬ Unanswerable g.test) ∧ Unanswerable f.test ∧ e = refusal f ∧
        e.kind = if f.operator.takesList then .inexpressible else .unsupportedOperator) ∧
      ((∀ f ∈ c.allFilters, ¬ Unanswerable f.test) →
        ∃ query text, Query.ofCriteria c = .ok query ∧ query.filter = some text ∧ text ≠ "")) := by
  refine ⟨?_, ?_, ?_⟩
  · intro hordered
    exact ⟨_, if_pos hordered, rfl⟩
  · rintro hordered ⟨n, hn, hempty⟩
    have hany : c.nodes.any Criteria.isUnconstrained = true :=
      List.any_eq_true.mpr ⟨n, hn, Criteria.isUnconstrained_iff.mpr hempty⟩
    rw [Query.ofCriteria, hordered, hany]
    rfl
  · intro hordered hnodes
    have hconstrained : ∀ n ∈ c.nodes, n.isUnconstrained = false := fun n hn =>
      Bool.eq_false_iff.mpr (mt Criteria.isUnconstrained_iff.mp (hnodes n hn))
    have hany : c.nodes.any Criteria.isUnconstrained = false := by simpa using hconstrained
    have hrefused (e : StoreError) :
        Query.ofCriteria c = .error e ↔ Expression.ofCriteria c = .error e := by
      rw [Query.ofCriteria, hordered, hany]
      refine bind_eq_error_iff.trans (or_iff_left ?_)
      rintro ⟨made, _, h⟩
      cases made <;> cases h
    constructor
    · intro e
      rw [hrefused, Expression.ofCriteria_eq_error_iff, mapM_eq_error_iff]
      have herror (f : Filter) : Condition.ofFilter f = .error e ↔ Unanswerable f.test ∧ e = refusal f ∧
          e.kind = if f.operator.takesList then .inexpressible else .unsupportedOperator := by
        rw [ofFilter_eq_error_iff]
        refine and_congr_right fun _ => (and_iff_left_of_imp ?_).symm
        rintro rfl
        exact kind_refusal f
      simp only [exists_ofFilter_iff, herror]
    · intro hall
      cases hmade : Expression.ofCriteria c with
      | error e =>
        have hfirst := mapM_eq_error_iff.mp (Expression.ofCriteria_eq_error_iff.mp hmade)
        obtain ⟨before, f, after, hsplit, _, hf⟩ := hfirst
        refine absurd (ofFilter_eq_error_iff.mp hf).1 (hall f ?_)
        rw [hsplit]
        exact List.mem_append_right before List.mem_cons_self
      | ok made =>
        obtain ⟨expression, rfl, hconditions⟩ := Expression.exists_conditions hconstrained hmade
        refine ⟨.ofExpression expression, expression.text 0, ?_, rfl,
          Expression.text_ne_empty hconditions 0⟩
        rw [Query.ofCriteria, hordered, hany, hmade]
        rfl

end Dynamo

end QueryCriteria
