import QueryCriteria.KeyValue.Commands
import QueryCriteria.Proofs.Criteria.Shape
import QueryCriteria.Proofs.Sql.Numbering
import QueryCriteria.Search.Query

/-!
Values of the wrong kind in translations. A translation that reads a filter as field, operator and value
needs something to put in place of a value that is of the wrong kind for its operator. As every filter has
the shape that its operator relies on, it does not matter what that is.
-/
namespace QueryCriteria

/-- What stands in for values of the wrong kind. -/
structure Stopgap where
  /-- For a value that is no text. -/
  text : Value → String
  /-- For a value that is no list. -/
  members : Value → List Value
  /-- For a value that is no key. -/
  key : String
  /-- For a pattern that is no text. -/
  pattern : String

/-- The text of a value in messages, the value as the only member, and empty texts. -/
def Stopgap.standard : Stopgap :=
  ⟨Value.display, fun value => [value], "", ""⟩

/-- The members, if the value is a list. -/
def Value.list? : Value → Option (List Value)
  | .list items => some items
  | _ => none

variable (stopgap : Stopgap)

namespace Sql

namespace Condition

/-- The condition on a column by operator and value. -/
def ofParts (column : String) (operator : Operator) (value : Value) : Condition :=
  let text := value.text?.getD (stopgap.text value)
  let members := value.list?.getD (stopgap.members value)
  match operator with
  | .equal => if value.isNull then .isNull column else .compare column .equal (.ofValue value)
  | .notEqual => if value.isNull then .isNotNull column else .compare column .distinct (.ofValue value)
  | .greaterThan => .compare column (.range .greaterThan) (.ofValue value)
  | .greaterEqual => .compare column (.range .greaterEqual) (.ofValue value)
  | .lessThan => .compare column (.range .lessThan) (.ofValue value)
  | .lessEqual => .compare column (.range .lessEqual) (.ofValue value)
  | .contains => .compare column .like (.text ("%" ++ Pattern.escapeLike text ++ "%"))
  | .beginsWith => .compare column .like (.text (Pattern.escapeLike text ++ "%"))
  | .like => .compare column .like (.text text)
  | .notLike => .nullOr column (.compare column .notLike (.text text))
  | .isIn => if members.isEmpty then .falsity else .isIn column (members.map .ofValue)
  | .notIn =>
    if members.isEmpty then .truth else .nullOr column (.notIn column (members.map .ofValue))

theorem ofFilter_eq_ofParts (f : Filter) :
    ofFilter f = ofParts stopgap f.field.text f.operator f.value := by
  have hmembers (members : List Scalar) :
      (members.map Value.scalar).map Param.ofValue = members.map .ofScalar :=
    List.map_map
  obtain ⟨field, test⟩ := f
  -- Once the test is known, its value is of the right kind and nothing stands in for it.
  cases test with
  | equal operand | notEqual operand => cases operand <;> rfl
  | range relation operand => cases relation <;> rfl
  | text test operand => cases test <;> rfl
  | isIn members =>
    cases members with
    | nil => rfl
    | cons s rest => exact congrArg (Condition.isIn field.text) (hmembers (s :: rest)).symm
  | notIn members =>
    cases members with
    | nil => rfl
    | cons s rest =>
      exact congrArg (fun bound => Condition.nullOr field.text (.notIn field.text bound))
        (hmembers (s :: rest)).symm

end Condition

/-- Every value that a filter binds is that of a scalar. -/
theorem exists_scalar_of_bound {f : Filter} {p : Param} (h : p ∈ f.bound) :
    ∃ s, p = .ofScalar s := by
  have hmap {scalars : List Scalar} (hp : p ∈ scalars.map .ofScalar) : ∃ s, p = .ofScalar s :=
    (List.mem_map.mp hp).imp fun _ hs => hs.2.symm
  obtain ⟨field, test⟩ := f
  cases test with
  | equal operand | notEqual operand | isIn members | notIn members => exact hmap h
  | range relation operand => exact ⟨operand, List.mem_singleton.mp h⟩
  | text test operand =>
    cases test with
    | contains | beginsWith | like | notLike => exact ⟨.text _, List.mem_singleton.mp h⟩

/-- The values bound for criteria are scalars, neither null nor JSON. -/
theorem params_scalar {c : Criteria} {p : Param} (h : p ∈ (Query.ofCriteria c).params) :
    p ≠ .null ∧ ∀ json, p ≠ .json json := by
  have hparams : (Query.ofCriteria c).params = c.allFilters.flatMap Filter.bound := by
    rw [Query.params, Query.whereTokens, Query.ofCriteria, ← Condition.params_ofCriteria c]
    cases Condition.ofCriteria c <;> rfl
  rw [hparams] at h
  obtain ⟨f, _, hf⟩ := List.mem_flatMap.mp h
  obtain ⟨s, rfl⟩ := exists_scalar_of_bound hf
  cases s <;> exact ⟨Param.noConfusion, fun _ => Param.noConfusion⟩

end Sql

namespace KeyValue

/-- The key that a value stands for. -/
def keyOf? : Value → Option String
  | .scalar s => key? s
  | _ => none

namespace Collection

/-- Whether the value of a filter is the key that it asks for. -/
def asksKey (f : Filter) : Bool :=
  f.operator == .equal && (keyOf? f.value).isSome

def asksRange (f : Filter) : Bool :=
  f.operator == .beginsWith

/-- What the commands of the store do for a filter by operator and value. -/
def lookupOf (f : Filter) : Lookup :=
  let key := (keyOf? f.value).getD stopgap.key
  if f.operator = .equal then .key key else .keysFrom key

theorem keyLookup?_eq (f : Filter) :
    keyLookup? f = (Option.guard asksKey f).map (lookupOf stopgap) := by
  obtain ⟨field, test⟩ := f
  cases test with
  | equal operand =>
    cases operand with
    | none => rfl
    | some s => cases s <;> rfl
  | range relation operand => cases relation <;> rfl
  | text test operand => cases test <;> rfl
  | notEqual operand | isIn members | notIn members => rfl

theorem rangeLookup?_eq (f : Filter) :
    rangeLookup? f = (Option.guard asksRange f).map (lookupOf stopgap) := by
  obtain ⟨field, test⟩ := f
  cases test with
  | range relation operand => cases relation <;> rfl
  | text test operand => cases test <;> rfl
  | equal operand | notEqual operand | isIn members | notIn members => rfl

/-- A filter that is found by what it asks for is the first with a lookup. -/
theorem firstLookup?_eq {lookup? : Filter → Option Lookup} {asks : Filter → Bool}
    {lookup : Filter → Lookup} (h : ∀ f, lookup? f = (Option.guard asks f).map lookup)
    (filters : Filters) :
    firstLookup? lookup? filters = (filters.find? asks).map fun f => (f, lookup f) := by
  rw [firstLookup?, ← List.findSome?_guard, List.map_findSome?]
  -- Both sides go through the same filters, so it is enough to compare what they do with one.
  congr 1
  funext f
  simp only [h, Function.comp_apply, Option.map_guard]
  split <;> rfl

/-- The filter that becomes a command, found by operators and values. -/
def pushedFilter? (collection : Collection) (c : Criteria) : Option Filter :=
  if c.branches.isEmpty then
    let filters := c.filters.filter (Filter.isOn collection.idField)
    (filters.find? asksKey).or (filters.find? asksRange)
  else none

/-- The command and the remaining work for criteria by operators and values. -/
def planOfParts (collection : Collection) (c : Criteria) : QueryPlan Command :=
  match collection.pushedFilter? c with
  | some pushed =>
    { command := match lookupOf stopgap pushed with
        | .key id => .get collection.name id
        | .keysFrom start => .scan collection.name (some start)
      residual := .ofCriteria { c with filters := remaining pushed c.filters } }
  | none => ⟨.scan collection.name none, .ofCriteria c⟩

theorem pushdown?_eq (collection : Collection) (c : Criteria) :
    collection.pushdown? c =
      (collection.pushedFilter? c).map fun f => (f, lookupOf stopgap f) := by
  rw [pushdown?, pushedFilter?]
  split
  · simp only [firstLookup?_eq (keyLookup?_eq stopgap), firstLookup?_eq (rangeLookup?_eq stopgap),
      Option.map_or]
  · rfl

theorem plan_eq_planOfParts (collection : Collection) (c : Criteria) :
    collection.plan c = collection.planOfParts stopgap c := by
  rw [plan, planOfParts, pushdown?_eq stopgap]
  cases collection.pushedFilter? c <;> rfl

end Collection

end KeyValue

namespace Search

/-- The wildcard condition of a pattern given as a value. -/
def Clause.ofPattern (field : String) (value : Value) : Clause :=
  .wildcard field (Pattern.likeToWildcard (value.text?.getD stopgap.pattern))

namespace Clauses

variable {f : Filter}

theorem ofTest_like (h : f.operator = .like) :
    ofTest f.field.text f.test = selecting (.ofPattern stopgap f.field.text f.value) := by
  obtain ⟨field, test⟩ := f
  obtain ⟨pattern, rfl⟩ : ∃ pattern, test = .text .like pattern := Test.exists_text h
  rfl

theorem ofTest_notLike (h : f.operator = .notLike) :
    ofTest f.field.text f.test = excluding (.ofPattern stopgap f.field.text f.value) := by
  obtain ⟨field, test⟩ := f
  obtain ⟨pattern, rfl⟩ : ∃ pattern, test = .text .notLike pattern := Test.exists_text h
  rfl

end Clauses

end Search

namespace Filter

/--
The filters that callers get have exactly the shapes that their operators rely on. So criteria bind neither
null nor JSON in SQL, and it does not matter what any translation puts in place of a value of the wrong kind.
-/
theorem stopgaps_unused (c : Criteria) :
    (∀ field operator value,
      (∃ f, Obtained f ∧ f.field.text = field ∧ f.operator = operator ∧ f.value = value) ↔
        Shape field operator value) ∧
    (∀ p ∈ (Sql.Query.ofCriteria c).params, p ≠ .null ∧ ∀ json, p ≠ .json json) ∧
    (∀ f : Filter,
      Sql.Condition.ofFilter f = .ofParts stopgap f.field.text f.operator f.value) ∧
    (∀ collection : KeyValue.Collection, collection.plan c = collection.planOfParts stopgap c) ∧
    ∀ f : Filter,
      (f.operator = .like → Search.Clauses.ofTest f.field.text f.test =
        .selecting (.ofPattern stopgap f.field.text f.value)) ∧
      (f.operator = .notLike → Search.Clauses.ofTest f.field.text f.test =
        .excluding (.ofPattern stopgap f.field.text f.value)) := by
  refine ⟨fun field operator value => exists_obtained_iff, fun p hp => Sql.params_scalar hp,
    Sql.Condition.ofFilter_eq_ofParts stopgap, ?_, ?_⟩
  · intro collection
    exact KeyValue.Collection.plan_eq_planOfParts stopgap collection c
  · intro f
    exact ⟨Search.Clauses.ofTest_like stopgap, Search.Clauses.ofTest_notLike stopgap⟩

def initials : FieldName :=
  ⟨"initials", rfl, by decide⟩

/-- Initials that begin with an A and do not end in a B. -/
def initialed : Filters :=
  [⟨initials, .text .like "A%"⟩, ⟨initials, .text .notLike "%B"⟩]

theorem stopgaps_unused_initialed :
    Filter.create " initials " "like" (.text "A%") = .ok ⟨initials, .text .like "A%"⟩ ∧
    Shape "initials" .like (.text "A%") ∧
    Sql.Param.text "%B" ∈ (Sql.Query.ofCriteria (.ofFilters initialed)).params ∧
    Sql.Param.text "%B" ≠ .null ∧
    Search.Clauses.ofTest "initials" (.text .like "A%") =
      .selecting (.ofPattern .standard "initials" (.text "A%")) ∧
    Search.Clauses.ofTest "initials" (.text .notLike "%B") =
      .excluding (.ofPattern .standard "initials" (.text "%B")) := by
  have hcreate : Filter.create " initials " "like" (.text "A%") = .ok ⟨initials, .text .like "A%"⟩ := by
    decide +kernel
  have hbound : Sql.Param.text "%B" ∈ (Sql.Query.ofCriteria (.ofFilters initialed)).params :=
    List.mem_cons_of_mem _ List.mem_cons_self
  obtain ⟨hshape, hparams, _, _, hsearch⟩ := stopgaps_unused .standard (.ofFilters initialed)
  exact ⟨hcreate, (hshape _ _ _).mp ⟨_, .create hcreate, rfl, rfl, rfl⟩, hbound, (hparams _ hbound).1,
    (hsearch ⟨initials, .text .like "A%"⟩).1 rfl, (hsearch ⟨initials, .text .notLike "%B"⟩).2 rfl⟩

end Filter

end QueryCriteria
