import QueryCriteria.Proofs.Pattern.Escape
import QueryCriteria.Proofs.Search.Evaluate
import QueryCriteria.Proofs.Success
import QueryCriteria.Search.Commands

/-!
The meaning of search queries. The query of a criteria tree, as it stands in the body of a request,
matches a document if the tree selects the record that the document holds.
-/
namespace QueryCriteria.Search

variable (engine : Engine) (document : String → Json)

/-- Whether a clause holds of a document. -/
def Clause.holds : Clause → Bool
  | .present field => !(document field).isNull
  | .term field operand => engine.term (document field) operand
  | .terms field members => engine.terms (document field) members
  | .range field relation operand => engine.range relation (document field) operand
  | .words field s => engine.words (document field) s
  | .beginsWith field s => engine.beginsWith (document field) s
  | .wildcard field pattern => engine.wildcard (document field) pattern

/-- All clauses that require and select hold, and no excluding one does. -/
def Clauses.holds (clauses : Clauses) : Bool :=
  clauses.must.all (·.holds engine document) && clauses.filter.all (·.holds engine document)
    && !clauses.mustNot.any (·.holds engine document)

mutual

def Query.holds : Query → Bool
  | .all => true
  | .filtered clauses => clauses.holds engine document
  | .anyOf queries => Query.anyHolds queries

def Query.anyHolds : List Query → Bool
  | [] => false
  | q :: rest => Query.holds q || Query.anyHolds rest

end

variable {engine : Engine} {document : String → Json}

/-- What holds of alternatives if it holds of each of them holds of every query. -/
theorem Query.induction {P : Query → Prop} (all : P .all) (filtered : ∀ clauses, P (.filtered clauses))
    (anyOf : ∀ queries, (∀ q ∈ queries, P q) → P (.anyOf queries)) (q : Query) : P q :=
  @Query.rec P (fun queries => ∀ q ∈ queries, P q) all filtered anyOf nofun
    (fun _ _ hq hqs => List.forall_mem_cons.mpr ⟨hq, hqs⟩) q

theorem Query.anyHolds_eq_any (queries : List Query) :
    anyHolds engine document queries = queries.any (·.holds engine document) := by
  induction queries with
  | nil => rfl
  | cons q rest ih => rw [anyHolds, ih, List.any_cons]

theorem Query.toJsonAll_eq_map (queries : List Query) : toJsonAll queries = queries.map toJson := by
  induction queries with
  | nil => rfl
  | cons q rest ih => rw [toJsonAll, ih, List.map_cons]

theorem relation?_boundName (relation : Relation) : relation? (boundName relation) = some relation := by
  cases relation <;> rfl

/-- The JSON form of a clause is read as the clause. -/
theorem Clause.evaluate_toJson (clause : Clause) :
    evaluate engine document clause.toJson = some (clause.holds engine document) := by
  cases clause with
  | range field relation operand =>
    change (relation? (boundName relation)).map _ = _
    rw [relation?_boundName]
    rfl
  | _ => rfl

theorem evaluateAll_map {α : Type} {f : α → Json} {g : α → Bool} {l : List α}
    (h : ∀ a ∈ l, evaluate engine document (f a) = some (g a)) :
    evaluateAll engine document (l.map f) = some (l.map g) := by
  induction l with
  | nil => rfl
  | cons a l ih =>
    obtain ⟨ha, hl⟩ := List.forall_mem_cons.mp h
    rw [List.map_cons, evaluateAll, ha, ih hl]
    rfl

private theorem evaluateParts_listed {minimum : Nat} {name : String} {clauses : List Clause}
    {rest : List (String × Json)} {here others : Bool}
    (hstep : ∀ queries, evaluateParts engine document minimum ((name, .array queries) :: rest) = (do
      let results ← evaluateAll engine document queries
      let here ← occurrence minimum name results
      let others ← evaluateParts engine document minimum rest
      return here && others))
    (hhere : occurrence minimum name (clauses.map (·.holds engine document)) = some here)
    (hempty : clauses = [] → here = true)
    (hrest : evaluateParts engine document minimum rest = some others) :
    evaluateParts engine document minimum
      ((if clauses.isEmpty then [] else [(name, .array (clauses.map Clause.toJson))]) ++ rest) =
        some (here && others) := by
  cases clauses with
  | nil =>
    rw [hempty rfl, Bool.true_and]
    exact hrest
  | cons clause clauses =>
    have hall := evaluateAll_map (f := Clause.toJson) (g := (·.holds engine document))
      fun c (_ : c ∈ clause :: clauses) => Clause.evaluate_toJson c
    change evaluateParts engine document minimum ((name, .array _) :: rest) = _
    rw [hstep, hall, hrest, Option.bind_eq_bind, Option.bind_some, hhere]
    rfl

/-- The JSON form of clauses is read as the clauses. -/
theorem Clauses.evaluate_toJson (clauses : Clauses) :
    evaluate engine document clauses.toJson = some (clauses.holds engine document) := by
  obtain ⟨parts, hjson, hparts⟩ : ∃ parts, clauses.toJson = .object [("bool", .object parts)] ∧
      ∀ minimum, evaluateParts engine document minimum parts =
        some (clauses.filter.all (·.holds engine document) &&
          (clauses.must.all (·.holds engine document) &&
            (!clauses.mustNot.any (·.holds engine document) && true))) := by
    refine ⟨(if clauses.filter.isEmpty then []
        else [("filter", .array (clauses.filter.map Clause.toJson))])
      ++ ((if clauses.must.isEmpty then [] else [("must", .array (clauses.must.map Clause.toJson))])
      ++ ((if clauses.mustNot.isEmpty then []
        else [("must_not", .array (clauses.mustNot.map Clause.toJson))]) ++ [])), ?_, fun minimum => ?_⟩
    · rw [List.append_nil, ← List.append_assoc]
      rfl
    · refine evaluateParts_listed (fun _ => rfl) ?_ (fun h => by rw [h]; rfl)
        (evaluateParts_listed (fun _ => rfl) ?_ (fun h => by rw [h]; rfl)
          (evaluateParts_listed (fun _ => rfl) ?_ (fun h => by rw [h]; rfl) rfl))
      · simp [occurrence]
      · simp [occurrence]
      · simp [occurrence]
  rw [hjson]
  refine (hparts (minimumShouldMatch parts)).trans ?_
  rw [Clauses.holds, Bool.and_true, ← Bool.and_assoc,
    Bool.and_comm (clauses.must.all (·.holds engine document))]

/-- The JSON form of a query is read as the query. -/
theorem Query.evaluate_toJson (q : Query) :
    evaluate engine document q.toJson = some (q.holds engine document) := by
  induction q using Query.induction with
  | all => rfl
  | filtered clauses => exact clauses.evaluate_toJson
  | anyOf queries ih =>
    have hall := evaluateAll_map ih
    have hcount (results : List Bool) : decide (1 ≤ results.count true) = results.any id := by
      rw [Bool.eq_iff_iff, decide_eq_true_iff, Nat.one_le_iff_ne_zero, ← Nat.pos_iff_ne_zero,
        List.count_pos_iff]
      simp
    change (evaluateAll engine document (toJsonAll queries)).bind (fun results =>
      (occurrence 1 "should" results).bind fun here => some (here && true)) = _
    rw [toJsonAll_eq_map, hall, Query.holds, Query.anyHolds_eq_any]
    change some (decide (1 ≤ (queries.map (·.holds engine document)).count true) && true) = _
    rw [hcount, List.any_map, Bool.and_true]
    rfl

namespace Engine.Lawful

variable {value : Json}

theorem term_eq (h : engine.Lawful) (hp : value.isPlain = true) {s : Scalar}
    (hs : s.isFinite = true) : engine.term value s.toJson = Test.equals value s.toJson := by
  by_cases hv : value = .null
  · rw [hv, h.term_null, Test.equals_null hs]
  · exact h.term_value value _ hv hp

theorem terms_eq (h : engine.Lawful) (hp : value.isPlain = true) {members : List Scalar}
    (hs : ∀ s ∈ members, s.isFinite = true) :
    engine.terms value (members.map Scalar.toJson) = (Test.isIn members).holds value := by
  by_cases hv : value = .null
  · have hf : (Test.isIn members).IsFinite := hs
    rw [hv, h.terms_null, Test.holds_null hf]
    rfl
  · rw [h.terms_value value _ hv hp, List.any_map]
    rfl

theorem range_eq (h : engine.Lawful) (hp : value.isPlain = true) (relation : Relation) {s : Scalar}
    (hs : s.isFinite = true) :
    engine.range relation value s.toJson = (Test.range relation s).holds value := by
  by_cases hv : value = .null
  · have hf : (Test.range relation s).IsFinite := by simpa [Test.IsFinite, Test.operands] using hs
    rw [hv, h.range_null, Test.holds_null hf]
    rfl
  · exact h.range_value relation value _ hv hp

theorem words_eq (h : engine.Lawful) (hp : value.isPlain = true) (s : String) :
    engine.words value s = TextTest.contains.holds s value := by
  by_cases hv : value = .null
  · rw [hv, h.words_null]
    rfl
  · exact h.words_value value s hv hp

theorem beginsWith_eq (h : engine.Lawful) (hp : value.isPlain = true) (s : String) :
    engine.beginsWith value s = TextTest.beginsWith.holds s value := by
  by_cases hv : value = .null
  · rw [hv, h.beginsWith_null]
    rfl
  · exact h.beginsWith_value value s hv hp

/-- The wildcard of a LIKE pattern finds what the pattern accepts. -/
theorem wildcard_eq (h : engine.Lawful) (hp : value.isPlain = true) (pattern : String) :
    engine.wildcard value (Pattern.likeToWildcard pattern) = TextTest.like.holds pattern value := by
  by_cases hv : value = .null
  · rw [hv, h.wildcard_null]
    rfl
  · rw [h.wildcard_value value _ hv hp, Pattern.ofWildcard_likeToWildcard]
    cases value with
    | array items => cases hp
    | _ => rfl

end Engine.Lawful

private theorem isNull_eq_equals (value : Json) : value.isNull = Test.equals value .null := by
  cases value <;> rfl

/-- LIKE and its negation are opposites, on values that are no texts as well. -/
private theorem notLike_eq {value : Json} (hp : value.isPlain = true) (pattern : String) :
    TextTest.notLike.holds pattern value = !TextTest.like.holds pattern value := by
  cases value with
  | array items => cases hp
  | _ => rfl

/-- The clauses of a test hold of a document exactly if the test holds of the field. -/
theorem Clauses.holds_ofTest (h : engine.Lawful) {field : String} {test : Test}
    (hf : test.IsFinite) (hp : (document field).isPlain = true) :
    (Clauses.ofTest field test).holds engine document = test.holds (document field) := by
  have hselecting (c : Clause) : (selecting c).holds engine document = c.holds engine document := by
    simp [selecting, Clauses.none, Clauses.holds]
  have hexcluding (c : Clause) : (excluding c).holds engine document = !c.holds engine document := by
    simp [excluding, Clauses.none, Clauses.holds]
  have hrequiring (c : Clause) : (requiring c).holds engine document = c.holds engine document := by
    simp [requiring, Clauses.none, Clauses.holds]
  cases test with
  | equal operand =>
    cases operand with
    | none => rw [ofTest, hexcluding, Clause.holds, Bool.not_not, isNull_eq_equals]; rfl
    | some s => rw [ofTest, hselecting, Clause.holds, h.term_eq hp (hf s (by simp [Test.operands]))]; rfl
  | notEqual operand =>
    cases operand with
    | none => rw [ofTest, hselecting, Clause.holds, isNull_eq_equals]; rfl
    | some s => rw [ofTest, hexcluding, Clause.holds, h.term_eq hp (hf s (by simp [Test.operands]))]; rfl
  | range relation s =>
    rw [ofTest, hselecting]
    exact h.range_eq hp relation (hf s (by simp [Test.operands]))
  | text test s =>
    cases test with
    | contains =>
      rw [ofTest, hrequiring]
      exact h.words_eq hp s
    | beginsWith =>
      rw [ofTest, hselecting]
      exact h.beginsWith_eq hp s
    | like =>
      rw [ofTest, hselecting]
      exact h.wildcard_eq hp s
    | notLike =>
      rw [ofTest, hexcluding, Clause.holds, h.wildcard_eq hp s]
      exact (notLike_eq hp s).symm
  | isIn members =>
    rw [ofTest, hselecting]
    exact h.terms_eq hp hf
  | notIn members =>
    rw [ofTest, hexcluding]
    exact congrArg (!·) (h.terms_eq hp hf)

theorem Clauses.holds_append (a b : Clauses) :
    (append a b).holds engine document = (a.holds engine document && b.holds engine document) := by
  simp only [append, holds, List.all_append, List.any_append, Bool.not_or]
  grind

/-- The clauses of filters hold of a document exactly if all filters accept the record. -/
theorem Clauses.holds_ofFilters (h : engine.Lawful) {record : Record} {filters : Filters}
    (hf : ∀ f ∈ filters, f.FitsPlain record) :
    (ofFilters filters).holds engine record.column = filters.all (·.holds record) := by
  induction filters with
  | nil => rfl
  | cons f rest ih =>
    obtain ⟨hfirst, hrest⟩ := List.forall_mem_cons.mp hf
    rw [ofFilters, holds_append, ih hrest, holds_ofTest h hfirst.finite hfirst.plain, List.all_cons,
      Filter.holds_eq_column hfirst.reaches]

theorem Query.ofBranches_eq_map (branches : List Criteria) :
    ofBranches branches = branches.map ofCriteria := by
  induction branches with
  | nil => rfl
  | cons b rest ih => rw [ofBranches, ih, List.map_cons]

/-- The query of a tree holds of a document exactly if the tree selects the record. -/
theorem Query.holds_ofCriteria (h : engine.Lawful) {record : Record} (c : Criteria)
    (hf : ∀ f ∈ c.allFilters, f.FitsPlain record) :
    (ofCriteria c).holds engine record.column = c.selects record := by
  induction c using Criteria.induction with
  | node filters order limit offset branches ih =>
    obtain ⟨hown, hbelow⟩ := Criteria.forall_allFilters.mp hf
    have hfilters : (ofFilters filters).any (·.holds engine record.column) =
        (!filters.isEmpty && filters.all (·.holds record)) := by
      cases filters with
      | nil => rfl
      | cons f rest =>
        have hclauses := Clauses.holds_ofFilters h hown
        simpa [ofFilters, Query.holds] using hclauses
    have hbranches : (ofBranches branches).any (·.holds engine record.column) =
        Criteria.anySelects record branches := by
      rw [ofBranches_eq_map, List.any_map, Bool.eq_iff_iff, List.any_eq_true, Criteria.anySelects_iff]
      refine exists_congr fun b => and_congr_right fun hb => ?_
      rw [Function.comp_apply, ih b hb (hbelow b hb)]
    have hany : (Query.anyOf (ofFilters filters ++ ofBranches branches)).holds engine record.column =
        (!filters.isEmpty && filters.all (·.holds record) || Criteria.anySelects record branches) := by
      rw [Query.holds, anyHolds_eq_any, List.any_append, hfilters, hbranches]
    rw [ofCriteria, Criteria.selects]
    cases branches with
    | nil =>
      cases filters with
      | nil => rfl
      | cons f rest =>
        refine (Clauses.holds_ofFilters h hown).trans ?_
        cases (f :: rest).all (·.holds record) <;> rfl
    | cons b rest =>
      rw [if_neg (by simp), hany]
      cases !filters.isEmpty && filters.all (·.holds record) <;> simp

/--
The query of a tree, evaluated on a document, has a result, which is whether the tree selects the
record; and it is the query in the body of every request for the tree.
-/
theorem query_selects (h : engine.Lawful) (c : Criteria) (record : Record)
    (hf : ∀ f ∈ c.allFilters, f.FitsPlain record) :
    evaluate engine record.column (Query.ofCriteria c).toJson = some (c.selects record) ∧
    ∀ window request, body window c = .ok request →
      request.field? "query" = some (Query.ofCriteria c).toJson := by
  refine ⟨by rw [Query.evaluate_toJson, Query.holds_ofCriteria h c hf], fun window request hb => ?_⟩
  obtain ⟨page, -, hb⟩ := exists_of_bind_ok hb
  obtain rfl := Except.ok.inj hb
  cases hoffset : c.offset.isSome <;> simp [Json.field?, Entries.get?]

theorem query_selects_admitted :
    Engine.direct.Lawful ∧
    (∀ f ∈ Criteria.admitted.allFilters,
      f.FitsPlain [("age", .ofInt64 12), ("name", .text "Ada")]) ∧
    evaluate Engine.direct (Record.column [("age", .ofInt64 12), ("name", .text "Ada")])
      (Query.ofCriteria .admitted).toJson =
        some (Criteria.admitted.selects [("age", .ofInt64 12), ("name", .text "Ada")]) ∧
    ∀ window request, body window .admitted = .ok request →
      request.field? "query" = some (Query.ofCriteria .admitted).toJson :=
  ⟨Engine.direct_lawful, Criteria.admitted_fits,
    query_selects Engine.direct_lawful .admitted _ Criteria.admitted_fits⟩

end QueryCriteria.Search
