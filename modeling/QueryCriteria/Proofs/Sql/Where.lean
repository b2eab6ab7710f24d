import QueryCriteria.Proofs.Pattern.Escape
import QueryCriteria.Proofs.Sql.Reads
import QueryCriteria.Sql.Commands

/-!
The meaning of SQL conditions. The text of the condition of a criteria tree, read with the precedence
of SQL and with the values of its places, is true on the rows that the tree selects.
-/
namespace QueryCriteria.Sql

open Text (Formula)

variable {engine : Engine} {row : String → Json}

namespace Engine.Lawful

variable {value : Json} {operand : Param}

/-- A comparison that is not known to hold of NULL holds where criteria say so. -/
theorem holds_iff (h : engine.Lawful) {comparison : Comparison} (hc : comparison ≠ .distinct)
    (hp : value.isPlain = true) (ho : operand.operand ≠ .null) :
    engine comparison value operand = .holds ↔
      value ≠ .null ∧ comparison.accepts value operand.operand = true := by
  by_cases hv : value = .null
  · subst hv
    simp [h.null comparison operand hc]
  · simp [h.eq_accepts hp hv ho, hv]

theorem distinct_iff (h : engine.Lawful) (hp : value.isPlain = true) (ho : operand.operand ≠ .null) :
    engine .distinct value operand = .holds ↔ Test.equals value operand.operand = false := by
  by_cases hv : value = .null
  · subst hv
    have he : Test.equals .null operand.operand = false := by
      cases hj : operand.operand <;> simp_all [Test.equals, Json.compare?]
    simp [h.null_distinct operand ho, he]
  · simp [h.eq_accepts hp hv ho, Comparison.accepts]

theorem equal_fails_iff (h : engine.Lawful) (hp : value.isPlain = true)
    (ho : operand.operand ≠ .null) :
    engine .equal value operand = .fails ↔
      value ≠ .null ∧ Test.equals value operand.operand = false := by
  by_cases hv : value = .null
  · subst hv
    simp [h.null .equal operand nofun]
  · simp [h.eq_accepts hp hv ho, hv, Comparison.accepts]

end Engine.Lawful

private theorem operand_ne_null {s : Scalar} (h : s.isFinite = true) :
    (Param.ofScalar s).operand ≠ .null := by
  rw [Param.operand_ofScalar]
  exact Scalar.toJson_ne_null h

/-- A LIKE pattern that texts match exactly if they pass a test. -/
private theorem like_iff (h : engine.Lawful) {test : TextTest} {s pattern : String} {value : Json}
    (hp : value.isPlain = true) (hn : test ≠ .notLike)
    (ht : ∀ t, Pattern.like t pattern = test.onText s t) :
    engine .like value (.text pattern) = .holds ↔ test.holds s value = true := by
  have hc : Comparison.like ≠ .distinct := by decide
  have ho : (Param.text pattern).operand ≠ .null := nofun
  rw [h.holds_iff hc hp ho]
  cases value with
  | text t => simp [Comparison.accepts, Param.operand, TextTest.holds, ht]
  | array items => cases hp
  | _ => simp [Comparison.accepts, TextTest.holds, hn]

private theorem notLike_iff (h : engine.Lawful) {pattern : String} {value : Json}
    (hp : value.isPlain = true) :
    (value.isNull = true ∨ engine .notLike value (.text pattern) = .holds) ↔
      TextTest.notLike.holds pattern value = true := by
  have hc : Comparison.notLike ≠ .distinct := by decide
  have ho : (Param.text pattern).operand ≠ .null := nofun
  rw [h.holds_iff hc hp ho]
  cases value with
  | text t => simp [Json.isNull, Comparison.accepts, Param.operand, TextTest.holds, TextTest.onText]
  | array items => cases hp
  | _ => simp [Json.isNull, Comparison.accepts, TextTest.holds]

private theorem equal_iff (h : engine.Lawful) {s : Scalar} {value : Json} (hs : s.isFinite = true)
    (hp : value.isPlain = true) :
    engine .equal value (.ofScalar s) = .holds ↔ Test.equals value s.toJson = true := by
  have hc : Comparison.equal ≠ .distinct := by decide
  rw [h.holds_iff hc hp (operand_ne_null hs), Param.operand_ofScalar]
  refine ⟨fun hv => hv.2, fun he => ⟨?_, he⟩⟩
  rintro rfl
  rw [Test.equals_null hs] at he
  cases he

private theorem range_iff (h : engine.Lawful) {relation : Relation} {s : Scalar} {value : Json}
    (hs : s.isFinite = true) (hp : value.isPlain = true) :
    engine (.range relation) value (.ofScalar s) = .holds ↔
      (Test.range relation s).holds value = true := by
  have hc : Comparison.range relation ≠ .distinct := nofun
  rw [h.holds_iff hc hp (operand_ne_null hs), Param.operand_ofScalar]
  refine ⟨fun hv => hv.2, fun he => ⟨?_, he⟩⟩
  rintro rfl
  have hf : (Test.range relation s).IsFinite := by simpa [Test.IsFinite, Test.operands] using hs
  rw [Test.holds_null hf] at he
  cases he

private theorem isIn_iff (h : engine.Lawful) {members : List Scalar} {value : Json}
    (hs : ∀ s ∈ members, s.isFinite = true) (hp : value.isPlain = true) :
    Truth.any ((members.map Param.ofScalar).map (engine .equal value)) = .holds ↔
      (Test.isIn members).holds value = true := by
  rw [Truth.any_eq_holds]
  simp only [List.map_map, List.mem_map, exists_exists_and_eq_and, Function.comp_apply, Test.holds,
    List.any_eq_true]
  exact exists_congr fun s => and_congr_right fun hm => equal_iff h (hs s hm) hp

private theorem notIn_iff (h : engine.Lawful) {members : List Scalar} {value : Json}
    (hs : ∀ s ∈ members, s.isFinite = true) (hp : value.isPlain = true) :
    (value.isNull = true ∨
        (Truth.any ((members.map Param.ofScalar).map (engine .equal value))).not = .holds) ↔
      (Test.notIn members).holds value = true := by
  rw [Truth.not_eq_holds, Truth.any_eq_fails]
  by_cases hv : value = .null
  · subst hv
    have hf : (Test.notIn members).IsFinite := hs
    simp [Test.holds_null hf, Test.holdsOnMissing, Json.isNull]
  · simp only [Json.isNull_iff, hv, false_or, List.map_map, List.forall_mem_map, Function.comp_apply,
      Test.holds, Bool.not_eq_true', List.any_eq_false, Bool.not_eq_true]
    refine forall_congr' fun s => forall_congr' fun hm => ?_
    rw [h.equal_fails_iff hp (operand_ne_null (hs s hm)), Param.operand_ofScalar]
    exact and_iff_right hv

/-- The condition of a test is read as the test of the column. -/
theorem reads_ofTest (h : engine.Lawful) {column : String} {test : Test} (hf : test.IsFinite)
    (hp : (row column).isPlain = true) :
    Reads engine row .primary (Condition.ofTest column test).tokens
      (test.holds (row column) = true) := by
  cases test with
  | equal operand =>
    cases operand with
    | none =>
      refine (Reads.nullity column true).congr ?_
      cases hv : row column <;> simp [Json.isNull, Test.holds, Test.equals, Json.compare?, Json.ofOption]
    | some s =>
      have hs : s.isFinite = true := hf s (by simp [Test.operands])
      exact (Reads.compare column .equal (.ofScalar s)).congr (equal_iff h hs hp)
  | notEqual operand =>
    cases operand with
    | none =>
      refine (Reads.nullity column false).congr ?_
      cases hv : row column <;> simp [Json.isNull, Test.holds, Test.equals, Json.compare?, Json.ofOption]
    | some s =>
      have hs : s.isFinite = true := hf s (by simp [Test.operands])
      refine (Reads.compare column .distinct (.ofScalar s)).congr ?_
      rw [h.distinct_iff hp (operand_ne_null hs), Param.operand_ofScalar]
      simp [Test.holds, Json.ofOption]
  | range relation s =>
    have hs : s.isFinite = true := hf s (by simp [Test.operands])
    exact (Reads.compare column (.range relation) (.ofScalar s)).congr (range_iff h hs hp)
  | text test s =>
    cases test with
    | contains =>
      exact (Reads.compare column .like _).congr
        (like_iff h hp (by decide) fun t => Pattern.like_run_escapeLike_run s t)
    | beginsWith =>
      exact (Reads.compare column .like _).congr
        (like_iff h hp (by decide) fun t => Pattern.like_escapeLike_run s t)
    | like => exact (Reads.compare column .like _).congr (like_iff h hp (by decide) fun _ => rfl)
    | notLike =>
      exact (Reads.nullOr column (Reads.compare column .notLike _)).congr (notLike_iff h hp)
  | isIn members =>
    cases members with
    | nil => exact Reads.constant false
    | cons s rest =>
      exact (Reads.membership column true (List.cons_ne_nil _ _)).congr (isIn_iff h hf hp)
  | notIn members =>
    cases members with
    | nil => exact Reads.constant true
    | cons s rest =>
      exact (Reads.nullOr column (Reads.membership column false (List.cons_ne_nil _ _))).congr
        (notIn_iff h hf hp)

namespace Condition

theorem tokensAll_eq_map (conditions : List Condition) : tokensAll conditions = conditions.map tokens := by
  induction conditions with
  | nil => rfl
  | cons condition rest ih => rw [tokensAll, ih, List.map_cons]

theorem bracketedAll_eq_map (conditions : List Condition) :
    bracketedAll conditions =
      conditions.map fun condition => .fixed "(" :: condition.tokens ++ [.fixed ")"] := by
  induction conditions with
  | nil => rfl
  | cons condition rest ih => rw [bracketedAll, ih, List.map_cons]

theorem ofBranches_eq_map (branches : List Criteria) :
    ofBranches branches = branches.map fun b => (ofCriteria b).getD .truth := by
  induction branches with
  | nil => rfl
  | cons b rest ih => rw [ofBranches, ih, List.map_cons]

theorem alternatives_eq_none {conditions : List Condition} :
    alternatives conditions = none ↔ conditions = [] := by
  match conditions with
  | [] => simp [alternatives]
  | [_] => simp [alternatives]
  | _ :: _ :: _ => simp [alternatives]

theorem ofFilters_eq_nil {filters : Filters} : ofFilters filters = [] ↔ filters = [] := by
  cases filters <;> simp [ofFilters]

/-- Only a tree without filters and branches at its root has no condition. -/
theorem ofCriteria_eq_none {c : Criteria} :
    ofCriteria c = none ↔ c.filters = [] ∧ c.branches = [] := by
  obtain ⟨filters, order, limit, offset, branches⟩ := c
  rw [ofCriteria, alternatives_eq_none, List.append_eq_nil_iff, ofFilters_eq_nil, ofBranches_eq_map,
    List.map_eq_nil_iff]

end Condition

/-- Alternatives are true if one of them is. -/
private theorem reads_alternatives {conditions : List Condition} {ps : List Prop}
    (h : List.Forall₂ (fun condition p => Reads engine row .disjunction condition.tokens p)
      conditions ps) {condition : Condition}
    (hc : Condition.alternatives conditions = some condition) :
    Reads engine row .disjunction condition.tokens (∃ p ∈ ps, p) := by
  match conditions, h with
  | [], .nil => cases hc
  | [first], .cons hp .nil =>
    obtain rfl : first = condition := Option.some.inj hc
    refine hp.congr ⟨fun h => ⟨_, List.mem_singleton_self _, h⟩, ?_⟩
    rintro ⟨p, hmem, h⟩
    exact List.mem_singleton.mp hmem ▸ h
  | first :: second :: rest, hall =>
    obtain rfl : Condition.disjunction (first :: second :: rest) = condition := Option.some.inj hc
    have hbracketed : List.Forall₂ (fun tokens p => Reads engine row .conjunction tokens (id p))
        (Condition.bracketedAll (first :: second :: rest)) ps := by
      rw [Condition.bracketedAll_eq_map, List.forall₂_map_left_iff]
      exact hall.imp fun _ _ hp => hp.bracket.negation.conjunction
    exact Reads.disjoin hbracketed (List.cons_ne_nil _ _)

private theorem reads_ofFilters (h : engine.Lawful) {record : Record} {filters : Filters}
    (hne : filters ≠ []) (hf : ∀ f ∈ filters, f.FitsPlain record) :
    Reads engine record.column .conjunction
      (Condition.conjunction (filters.map Condition.ofFilter)).tokens
      (∀ f ∈ filters, f.holds record = true) := by
  have hall : List.Forall₂ (fun tokens f => Reads engine record.column .negation tokens
      (f.holds record = true)) (filters.map fun f => (Condition.ofFilter f).tokens) filters := by
    rw [List.forall₂_map_left_iff, List.forall₂_same]
    intro f hm
    have hfits := hf f hm
    rw [Filter.holds_eq_column hfits.reaches]
    exact (reads_ofTest h hfits.finite hfits.plain).negation
  have hne' : (filters.map fun f => (Condition.ofFilter f).tokens) ≠ [] := by simpa using hne
  have hr := Reads.conjoin hall hne'
  rwa [Condition.tokens, Condition.tokensAll_eq_map, List.map_map]

/-- The condition of a tree is true on the rows of the records that the tree selects. -/
theorem reads_ofCriteria (h : engine.Lawful) {record : Record} (c : Criteria)
    (hf : ∀ f ∈ c.allFilters, f.FitsPlain record) {condition : Condition}
    (hc : Condition.ofCriteria c = some condition) :
    Reads engine record.column .disjunction condition.tokens (c.selects record = true) := by
  induction c using Criteria.induction generalizing condition with
  | node filters order limit offset branches ih =>
    have hroot : ¬ (filters = [] ∧ branches = []) := fun hu => by
      rw [Condition.ofCriteria_eq_none.mpr hu] at hc
      cases hc
    obtain ⟨hown, hbelow⟩ := Criteria.forall_allFilters.mp hf
    have hfilters : List.Forall₂ (fun condition p =>
        Reads engine record.column .disjunction condition.tokens p) (Condition.ofFilters filters)
        (if filters = [] then [] else [∀ f ∈ filters, f.holds record = true]) := by
      cases filters with
      | nil => exact .nil
      | cons f rest => exact .cons (reads_ofFilters h (List.cons_ne_nil f rest) hown).disjunction .nil
    have hbranches : List.Forall₂ (fun condition p =>
        Reads engine record.column .disjunction condition.tokens p) (Condition.ofBranches branches)
        (branches.map fun b => b.selects record = true) := by
      rw [Condition.ofBranches_eq_map, List.forall₂_map_left_iff, List.forall₂_map_right_iff,
        List.forall₂_same]
      intro b hb
      cases hcb : Condition.ofCriteria b with
      | none =>
        have hsel : b.selects record = true :=
          Criteria.selects_iff.mpr (.inr (.inl (Condition.ofCriteria_eq_none.mp hcb)))
        exact ((Reads.constant true).congr (by simp [hsel])).weaken
      | some condition => exact ih b hb (hbelow b hb) hcb
    have hselects : (Criteria.selects record ⟨filters, order, limit, offset, branches⟩ = true) ↔
        ∃ p ∈ Criteria.ways record ⟨filters, order, limit, offset, branches⟩, p :=
      Criteria.selects_iff_ways hroot
    exact (reads_alternatives (List.rel_append hfilters hbranches) hc).congr hselects.symm

/-- The text of the condition, without its keyword. -/
def Query.whereText (query : Query) : Option String :=
  query.whereTokens.map render

/--
The condition is missing exactly if the root has neither filters nor branches, and then all records
are selected. Otherwise its text spells a formula that is true on a row, with the values bound to
their places, if the tree selects the record that the row stands for.
-/
theorem whereText_selects (h : engine.Lawful) (c : Criteria) (record : Record)
    (hf : ∀ f ∈ c.allFilters, f.FitsPlain record) :
    ((Query.ofCriteria c).whereText = none ↔ c.filters = [] ∧ c.branches = []) ∧
    ((Query.ofCriteria c).whereText = none → c.selects record = true) ∧
    ∀ text, (Query.ofCriteria c).whereText = some text →
      ∃ condition, readCondition text = some condition ∧
        (truth engine (Query.ofCriteria c).params record.column condition = .holds ↔
          c.selects record = true) := by
  have hnone : (Query.ofCriteria c).whereText = none ↔ c.filters = [] ∧ c.branches = [] := by
    rw [← Condition.ofCriteria_eq_none]
    simp [Query.whereText, Query.whereTokens, Query.ofCriteria]
  refine ⟨hnone, fun hw => Criteria.selects_iff.mpr (.inr (.inl (hnone.mp hw))), fun text ht => ?_⟩
  obtain ⟨tokens, htokens, rfl⟩ := Option.map_eq_some_iff.mp ht
  obtain ⟨condition, hcondition, rfl⟩ := Option.map_eq_some_iff.mp htokens
  have hr := reads_ofCriteria h c hf hcondition
  have hparams : (Query.ofCriteria c).params = params condition.tokens := by
    rw [Query.params, htokens, Option.getD_some]
  rw [hparams]
  obtain ⟨f, hread, hholds⟩ := (hr.denotes 0 (params condition.tokens) List.prefix_rfl).read
  refine ⟨f, ?_, hholds⟩
  rw [readCondition, render, lex_renderFrom hr.legible]
  exact hread

theorem whereText_selects_admitted :
    Engine.direct.Lawful ∧
    (∀ f ∈ Criteria.admitted.allFilters,
      f.FitsPlain [("age", .ofInt64 12), ("name", .text "Ada")]) ∧
    ∀ text, (Query.ofCriteria .admitted).whereText = some text →
      ∃ condition, readCondition text = some condition ∧
        (truth Engine.direct (Query.ofCriteria .admitted).params
          (Record.column [("age", .ofInt64 12), ("name", .text "Ada")]) condition = .holds ↔
          Criteria.admitted.selects [("age", .ofInt64 12), ("name", .text "Ada")] = true) :=
  ⟨Engine.direct_lawful, Criteria.admitted_fits,
    (whereText_selects Engine.direct_lawful .admitted _ Criteria.admitted_fits).2.2⟩

end QueryCriteria.Sql
