import QueryCriteria.Proofs.Dynamo.Definitions

/-!
Expressions written while their conditions are counted. Each condition takes the next number, and its
attribute and its values are put under their placeholders at once. So written, a tree has the text, the
names and the values that its expression has, whose conditions are numbered afterwards.
-/
namespace QueryCriteria.Dynamo

/-- How many conditions are written, and what their placeholders stand for. -/
structure Draft where
  counter : Nat
  names : Entries String
  values : Entries Json

namespace Draft

/-- Nothing is written. -/
def empty : Draft := ⟨0, [], []⟩

/-- One more condition, with the next number. -/
def add (draft : Draft) (condition : Condition) : Draft where
  counter := draft.counter + 1
  names := draft.names.insert (namePlaceholder draft.counter) condition.field
  values := (condition.clause.values draft.counter).foldl
    (fun values entry => values.insert entry.1 entry.2) draft.values

/-- More conditions, one after the other. -/
def addAll (draft : Draft) (conditions : List Condition) : Draft :=
  conditions.foldl add draft

theorem addAll_append (draft : Draft) (conditions more : List Condition) :
    draft.addAll (conditions ++ more) = (draft.addAll conditions).addAll more :=
  List.foldl_append

/-- Conditions that are added get the numbers of their positions. -/
theorem addAll_eq (draft : Draft) (conditions : List Condition) :
    draft.addAll conditions =
      ⟨draft.counter + conditions.length,
        ((conditions.zipIdx draft.counter).map fun numbered =>
            (namePlaceholder numbered.2, numbered.1.field)).foldl
          (fun names entry => names.insert entry.1 entry.2) draft.names,
        ((conditions.zipIdx draft.counter).flatMap fun numbered =>
            numbered.1.clause.values numbered.2).foldl
          (fun values entry => values.insert entry.1 entry.2) draft.values⟩ := by
  induction conditions generalizing draft with
  | nil => rfl
  | cons condition rest ih =>
    have hadd : draft.addAll (condition :: rest) = (draft.add condition).addAll rest := rfl
    rw [hadd, ih, List.zipIdx_cons, List.flatMap_cons, List.foldl_append, List.length_cons,
      Nat.add_comm rest.length, ← Nat.add_assoc]
    rfl

theorem counter_addAll (draft : Draft) (conditions : List Condition) :
    (draft.addAll conditions).counter = draft.counter + conditions.length := by
  rw [addAll_eq]

end Draft

/-- Writing that may be refused; the draft is carried along. -/
abbrev Writing (α : Type) := StateT Draft (Except StoreError) α

namespace Writing

/-- The text of the condition of a filter, which takes the next number. -/
def ofFilter (filter : Filter) : Writing String := fun draft =>
  (Condition.ofFilter filter).map fun condition =>
    (condition.clause.text draft.counter, draft.add condition)

/-- The filters of one node together; a node without filters writes none. -/
def ofFilters : Filters → Writing (List String)
  | [] => return []
  | filters => return [Text.join " AND " (← filters.mapM ofFilter)]

mutual

/-- The expression of a tree: its own filters first, and then its branches. -/
def ofCriteria : Criteria → Writing (Option String)
  | ⟨filters, _, _, _, branches⟩ => Text.alternatives <$> do
    return (← ofFilters filters) ++ (← ofBranches branches)

def ofBranches : List Criteria → Writing (List String)
  | [] => return []
  | c :: rest => do return (← Option.toList <$> ofCriteria c) ++ (← ofBranches rest)

end

end Writing

namespace Expression

/-- The texts of expressions whose conditions are numbered through. -/
def textsFrom : Nat → List Expression → List String
  | _, [] => []
  | n, e :: rest => e.text n :: textsFrom (n + e.conditions.length) rest

theorem textsFrom_append (n : Nat) (es more : List Expression) :
    textsFrom n (es ++ more) = textsFrom n es ++ textsFrom (n + (es.flatMap conditions).length) more := by
  induction es generalizing n with
  | nil => rfl
  | cons e rest ih =>
    rw [List.cons_append, textsFrom, ih, List.flatMap_cons, List.length_append, ← Nat.add_assoc]
    rfl

theorem textAll_eq (n : Nat) (es : List Expression) :
    textAll n es = (textsFrom n es).map fun text => "(" ++ text ++ ")" := by
  induction es generalizing n with
  | nil => rfl
  | cons e rest ih => rw [textAll, textsFrom, List.map_cons, ih]

theorem alternatives_textsFrom (n : Nat) (es : List Expression) :
    Text.alternatives (textsFrom n es) = (alternatives es).map (text n) := by
  rcases es with _ | ⟨first, _ | ⟨second, rest⟩⟩
  · rfl
  · rfl
  · change some (Text.join " OR " ((textsFrom n (first :: second :: rest)).map _)) =
      some (text n (.disjunction (first :: second :: rest)))
    rw [text, textAll_eq]

end Expression

open Expression (conditions textsFrom)

/-- Writes the texts of expressions and adds their conditions, unless there are none. -/
def WritesAll (run : Writing (List String)) (made : Except StoreError (List Expression)) : Prop :=
  ∀ draft, run draft = made.map fun es =>
    (textsFrom draft.counter es, draft.addAll (es.flatMap conditions))

/-- Writes the text of an expression and adds its conditions, if there is one, unless it is refused. -/
def WritesSome (run : Writing (Option String)) (made : Except StoreError (Option Expression)) : Prop :=
  ∀ draft, run draft = made.map fun e? =>
    (e?.map (Expression.text draft.counter), draft.addAll ((e?.map conditions).getD []))

theorem WritesSome.toList {run : Writing (Option String)} {made : Except StoreError (Option Expression)}
    (h : WritesSome run made) : WritesAll (Option.toList <$> run) (made.map Option.toList) := by
  intro draft
  change (run draft >>= fun r => pure (r.1.toList, r.2)) = _
  rw [h]
  rcases made with e | _ | e
  · rfl
  · rfl
  · change Except.ok (_, _) = Except.ok (_, draft.addAll (e.conditions ++ []))
    rw [List.append_nil]
    rfl

theorem WritesAll.alternatives {run : Writing (List String)} {made : Except StoreError (List Expression)}
    (h : WritesAll run made) :
    WritesSome (Text.alternatives <$> run) (made.map Expression.alternatives) := by
  intro draft
  change (run draft >>= fun r => pure (Text.alternatives r.1, r.2)) = _
  rw [h]
  cases made with
  | error e => rfl
  | ok es =>
    change Except.ok (Text.alternatives (textsFrom draft.counter es), _) = Except.ok (_, draft.addAll _)
    rw [Expression.alternatives_textsFrom, Expression.conditions_alternatives]

theorem WritesAll.append {first second : Writing (List String)}
    {made more : Except StoreError (List Expression)} (hfirst : WritesAll first made)
    (hsecond : WritesAll second more) :
    WritesAll (do return (← first) ++ (← second)) (do return (← made) ++ (← more)) := by
  intro draft
  change (first draft >>= fun r => second r.2 >>= fun s => pure (r.1 ++ s.1, s.2)) = _
  rw [hfirst]
  cases made with
  | error e => rfl
  | ok es =>
    change (second (draft.addAll (es.flatMap conditions)) >>= fun s =>
      pure (textsFrom draft.counter es ++ s.1, s.2)) = _
    rw [hsecond, Draft.counter_addAll]
    cases more with
    | error e => rfl
    | ok more =>
      change Except.ok (_, _) = Except.ok (_, _)
      rw [Expression.textsFrom_append, List.flatMap_append, Draft.addAll_append]

theorem mapM_ofFilter (filters : Filters) (draft : Draft) :
    filters.mapM Writing.ofFilter draft =
      (filters.mapM Condition.ofFilter).map fun conditions =>
        ((conditions.zipIdx draft.counter).map fun numbered => numbered.1.clause.text numbered.2,
          draft.addAll conditions) := by
  induction filters generalizing draft with
  | nil => rfl
  | cons f rest ih =>
    rw [List.mapM_cons, List.mapM_cons]
    change (Writing.ofFilter f draft >>= fun r => rest.mapM Writing.ofFilter r.2 >>= fun s =>
      pure (r.1 :: s.1, s.2)) = _
    rw [Writing.ofFilter]
    cases Condition.ofFilter f with
    | error e => rfl
    | ok condition =>
      change (rest.mapM Writing.ofFilter (draft.add condition) >>= fun s =>
        pure (condition.clause.text draft.counter :: s.1, s.2)) = _
      rw [ih]
      cases rest.mapM Condition.ofFilter <;> rfl

theorem writesAll_ofFilters (filters : Filters) :
    WritesAll (Writing.ofFilters filters)
      ((filters.mapM Condition.ofFilter).map fun conditions =>
        if conditions.isEmpty then [] else [.conjunction conditions]) := by
  intro draft
  cases filters with
  | nil => rfl
  | cons f rest =>
    change ((f :: rest).mapM Writing.ofFilter draft >>= fun r =>
      pure ([Text.join " AND " r.1], r.2)) = _
    rw [mapM_ofFilter]
    cases hmade : (f :: rest).mapM Condition.ofFilter with
    | error e => rfl
    | ok made =>
      cases made with
      | nil => cases (forall₂_of_mapM_ok hmade)
      | cons condition made =>
        change Except.ok (_, _) = Except.ok (_, draft.addAll ((condition :: made) ++ []))
        rw [List.append_nil]
        rfl

/-- Written while its conditions are counted, a tree has the text and the conditions of its expression. -/
theorem writing_ofCriteria (c : Criteria) (draft : Draft) :
    Writing.ofCriteria c draft = (Expression.ofCriteria c).map fun made =>
      (made.map (Expression.text draft.counter), draft.addAll ((made.map conditions).getD [])) := by
  induction c using Criteria.induction generalizing draft with
  | node filters order limit offset branches ih =>
    have hbranches : WritesAll (Writing.ofBranches branches) (Expression.ofBranches branches) := by
      induction branches with
      | nil => exact fun draft => rfl
      | cons b rest ihrest =>
        obtain ⟨hb, hrest⟩ := List.forall_mem_cons.mp ih
        have hfirst : WritesSome (Writing.ofCriteria b) (Expression.ofCriteria b) := hb
        have happend := hfirst.toList.append (ihrest hrest)
        rw [Writing.ofBranches, Expression.ofBranches]
        intro draft
        rw [happend]
        cases Expression.ofCriteria b <;> rfl
    have hall := ((writesAll_ofFilters filters).append hbranches).alternatives
    rw [Writing.ofCriteria, Expression.ofCriteria]
    refine (hall draft).trans ?_
    cases filters.mapM Condition.ofFilter with
    | error e => rfl
    | ok made => cases Expression.ofBranches branches <;> rfl

theorem writing_eq_query (c : Criteria) :
    (Writing.ofCriteria c .empty).map (fun r => Query.mk r.1 r.2.names r.2.values) =
      (Expression.ofCriteria c).map fun made => made.elim .everything .ofExpression := by
  rw [writing_ofCriteria]
  cases Expression.ofCriteria c with
  | error e => rfl
  | ok made =>
    cases made with
    | none => rfl
    | some e =>
      change Except.ok (Query.mk (some (e.text 0)) (Draft.addAll _ e.conditions).names
        (Draft.addAll _ e.conditions).values) = _
      rw [Draft.addAll_eq]
      rfl

end QueryCriteria.Dynamo
