import QueryCriteria.Proofs.Sql.Numbering

/-!
Conditions written while their values are bound. Each value is put behind those bound before it, and its
place has the number that it then has. So written, a tree has the text and the values that its condition
has as tokens, whose places are numbered afterwards.
-/
namespace QueryCriteria.Sql

/-- Writing that binds values; those bound so far are carried along. -/
abbrev Writing (α : Type) := StateM (List Param) α

namespace Writing

/-- Binds a value and writes its place. -/
def bindValue (value : Param) : Writing String := fun bound =>
  ("$" ++ toString (bound.length + 1), bound ++ [value])

/-- A quoted column, the words of a comparison, and the place of the value. -/
def compare (column words : String) (value : Param) : Writing String := do
  return column ++ words ++ (← bindValue value)

/-- A quoted column, the words before a list, and the places of its members. -/
def membership (column words : String) (members : List Scalar) : Writing String := do
  return column ++ words ++ Text.join ", " (← members.mapM fun s => bindValue (.ofScalar s)) ++ ")"

def nullOr (column : String) (condition : Writing String) : Writing String := do
  return "(" ++ column ++ " IS NULL OR " ++ (← condition) ++ ")"

/-- The condition that a test puts on a quoted column. -/
def ofTest (column : String) : Test → Writing String
  | .equal none => return column ++ " IS NULL"
  | .equal (some s) => compare column " = " (.ofScalar s)
  | .notEqual none => return column ++ " IS NOT NULL"
  | .notEqual (some s) => compare column " IS DISTINCT FROM " (.ofScalar s)
  | .range relation s => compare column (" " ++ relation.operator.token ++ " ") (.ofScalar s)
  | .text .contains s => compare column " LIKE " (.text ("%" ++ Pattern.escapeLike s ++ "%"))
  | .text .beginsWith s => compare column " LIKE " (.text (Pattern.escapeLike s ++ "%"))
  | .text .like pattern => compare column " LIKE " (.text pattern)
  | .text .notLike pattern => nullOr column (compare column " NOT LIKE " (.text pattern))
  | .isIn [] => return "FALSE"
  | .isIn members => membership column " IN (" members
  | .notIn [] => return "TRUE"
  | .notIn members => nullOr column (membership column " NOT IN (" members)

def ofFilter (filter : Filter) : Writing String :=
  ofTest (quoteIdentifier filter.field.text) filter.test

/-- The filters of one node together; a node without filters writes none. -/
def ofFilters : Filters → Writing (List String)
  | [] => return []
  | filters => return [Text.join " AND " (← filters.mapM ofFilter)]

mutual

/-- The condition of a tree: its own filters first, and then its branches. -/
def ofCriteria : Criteria → Writing (Option String)
  | ⟨filters, _, _, _, branches⟩ => do
    let own ← ofFilters filters
    return Text.alternatives (own ++ (← ofBranches branches))

def ofBranches : List Criteria → Writing (List String)
  | [] => return []
  | c :: rest => do return (← (·.getD "TRUE") <$> ofCriteria c) :: (← ofBranches rest)

end

end Writing

theorem renderFrom_append (n : Nat) (as bs : List Token) :
    renderFrom n (as ++ bs) = renderFrom n as ++ renderFrom (n + (params as).length) bs := by
  induction as generalizing n with
  | nil => exact (String.empty_append).symm
  | cons token rest ih =>
    cases token with
    | fixed s =>
      rw [List.cons_append, renderFrom, renderFrom, ih, String.append_assoc]
      rfl
    | identifier name =>
      rw [List.cons_append, renderFrom, renderFrom, ih, String.append_assoc]
      rfl
    | param value =>
      have hlength : (params (.param value :: rest)).length = 1 + (params rest).length :=
        Nat.add_comm (params rest).length 1
      rw [List.cons_append, renderFrom, renderFrom, ih, hlength, ← Nat.add_assoc, ← String.append_assoc]

theorem renderFrom_word (n : Nat) (word : String) : renderFrom n [.fixed word] = word :=
  String.append_empty

theorem renderFrom_column (n : Nat) (column words : String) :
    renderFrom n [.identifier column, .fixed words] = quoteIdentifier column ++ words := by
  rw [renderFrom, renderFrom_word]

/-- The texts of parts whose places are numbered through. -/
def textsFrom : Nat → List (List Token) → List String
  | _, [] => []
  | n, part :: rest => renderFrom n part :: textsFrom (n + (params part).length) rest

theorem textsFrom_append (n : Nat) (parts more : List (List Token)) :
    textsFrom n (parts ++ more) =
      textsFrom n parts ++ textsFrom (n + (parts.flatMap params).length) more := by
  induction parts generalizing n with
  | nil => rfl
  | cons part rest ih =>
    rw [List.cons_append, textsFrom, ih, List.flatMap_cons, List.length_append, ← Nat.add_assoc]
    rfl

theorem join_textsFrom (sep : String) (n : Nat) (parts : List (List Token)) :
    Text.join sep (textsFrom n parts) = renderFrom n (separated sep parts) := by
  induction parts generalizing n with
  | nil => rfl
  | cons part rest ih =>
    cases rest with
    | nil => rfl
    | cons next rest =>
      have hrest := ih (n + (params part).length)
      rw [separated, renderFrom_append, renderFrom, ← hrest, ← String.append_assoc]
      · rfl
      · intro h
        cases h

theorem textsFrom_bracketed (n : Nat) (parts : List (List Token)) :
    (textsFrom n parts).map (fun text => "(" ++ text ++ ")") =
      textsFrom n (parts.map fun part => .fixed "(" :: part ++ [.fixed ")"]) := by
  induction parts generalizing n with
  | nil => rfl
  | cons part rest ih =>
    rw [textsFrom, List.map_cons, ih, List.map_cons, textsFrom, params_bracketed, List.cons_append,
      renderFrom, renderFrom_append, ← String.append_assoc]
    rfl

/-- Writes the text of tokens whose places follow those of the values bound before, and binds theirs. -/
def Writes (run : Writing String) (tokens : List Token) : Prop :=
  ∀ bound, run bound = (renderFrom (bound.length + 1) tokens, bound ++ params tokens)

/-- Writes the texts of parts, one after the other. -/
def WritesAll (run : Writing (List String)) (parts : List (List Token)) : Prop :=
  ∀ bound, run bound = (textsFrom (bound.length + 1) parts, bound ++ parts.flatMap params)

theorem Writes.bindValue (value : Param) : Writes (Writing.bindValue value) [.param value] := by
  intro bound
  rw [Writing.bindValue, renderFrom, renderFrom, String.append_empty]
  rfl

theorem WritesAll.nil : WritesAll (return []) [] := by
  intro bound
  exact congrArg (Prod.mk []) (List.append_nil bound).symm

theorem WritesAll.cons {first : Writing String} {rest : Writing (List String)} {part : List Token}
    {parts : List (List Token)} (hfirst : Writes first part) (hrest : WritesAll rest parts) :
    WritesAll (do return (← first) :: (← rest)) (part :: parts) := by
  intro bound
  have hbound : (bound ++ params part).length + 1 = bound.length + 1 + (params part).length := by
    rw [List.length_append, Nat.add_right_comm]
  change ((first bound).1 :: (rest (first bound).2).1, (rest (first bound).2).2) = _
  rw [hfirst, hrest, hbound, List.append_assoc]
  rfl

theorem WritesAll.mapM {α : Type} {f : α → Writing String} {g : α → List Token} {xs : List α}
    (h : ∀ x ∈ xs, Writes (f x) (g x)) : WritesAll (xs.mapM f) (xs.map g) := by
  induction xs with
  | nil => exact .nil
  | cons x xs ih =>
    obtain ⟨hx, hxs⟩ := List.forall_mem_cons.mp h
    rw [List.mapM_cons]
    exact .cons hx (ih hxs)

theorem WritesAll.append {first second : Writing (List String)} {parts more : List (List Token)}
    (hfirst : WritesAll first parts) (hsecond : WritesAll second more) :
    WritesAll (do return (← first) ++ (← second)) (parts ++ more) := by
  intro bound
  have hbound : (bound ++ parts.flatMap params).length + 1 =
      bound.length + 1 + (parts.flatMap params).length := by
    rw [List.length_append, Nat.add_right_comm]
  change ((first bound).1 ++ (second (first bound).2).1, (second (first bound).2).2) = _
  rw [hfirst, hsecond, hbound, textsFrom_append, List.flatMap_append, List.append_assoc]

theorem WritesAll.join {run : Writing (List String)} {parts : List (List Token)}
    (h : WritesAll run parts) (sep : String) :
    Writes (do return Text.join sep (← run)) (separated sep parts) := by
  intro bound
  change (Text.join sep (run bound).1, (run bound).2) = _
  rw [h, join_textsFrom, params_separated]

namespace Writes

variable {run : Writing String} {tokens before after : List Token} {prior later : String}

/-- Tokens that bind nothing have one text wherever they stand. -/
theorem constant (htext : ∀ n, renderFrom n tokens = prior) (hparams : params tokens = []) :
    Writes (return prior) tokens := by
  intro bound
  rw [htext, hparams, List.append_nil]
  rfl

theorem behind (h : Writes run tokens) (htext : ∀ n, renderFrom n before = prior)
    (hparams : params before = []) : Writes (do return prior ++ (← run)) (before ++ tokens) := by
  intro bound
  change (prior ++ (run bound).1, (run bound).2) = _
  rw [h, renderFrom_append, params_append, htext, hparams]
  rfl

theorem ahead (h : Writes run tokens) (htext : ∀ n, renderFrom n after = later)
    (hparams : params after = []) : Writes (do return (← run) ++ later) (tokens ++ after) := by
  intro bound
  change ((run bound).1 ++ later, (run bound).2) = _
  rw [h, renderFrom_append, params_append, htext, hparams, List.append_nil]

theorem compare (column : String) (comparison : Comparison) (operand : Param) {words : String}
    (hwords : " " ++ comparison.text ++ " " = words) :
    Writes (Writing.compare (quoteIdentifier column) words operand)
      (Condition.compare column comparison operand).tokens := by
  subst hwords
  exact (bindValue operand).behind (renderFrom_column · column _) rfl

theorem nullOr (column : String) {condition : Condition} (h : Writes run condition.tokens) :
    Writes (Writing.nullOr (quoteIdentifier column) run) (Condition.nullOr column condition).tokens := by
  have htext : ∀ n, renderFrom n [.fixed "(", .identifier column, .fixed " IS NULL OR "] =
      "(" ++ quoteIdentifier column ++ " IS NULL OR " := by
    intro n
    rw [renderFrom, renderFrom_column, String.append_assoc]
  exact (h.behind htext rfl).ahead (renderFrom_word · ")") rfl

theorem membership (column words : String) (members : List Scalar) :
    Writes (Writing.membership (quoteIdentifier column) words members)
      (.identifier column :: .fixed words ::
        separated ", " ((members.map Param.ofScalar).map fun member => [.param member]) ++
          [.fixed ")"]) := by
  have hmembers : WritesAll (members.mapM fun s => Writing.bindValue (.ofScalar s))
      ((members.map Param.ofScalar).map fun member => [.param member]) := by
    rw [List.map_map]
    exact .mapM fun s _ => bindValue (.ofScalar s)
  exact ((hmembers.join ", ").behind (renderFrom_column · column words) rfl).ahead
    (renderFrom_word · ")") rfl

theorem ofTest (column : String) (test : Test) :
    Writes (Writing.ofTest (quoteIdentifier column) test) (Condition.ofTest column test).tokens := by
  cases test with
  | equal operand =>
    cases operand with
    | none => exact constant (renderFrom_column · column _) rfl
    | some s => exact compare column .equal (.ofScalar s) rfl
  | notEqual operand =>
    cases operand with
    | none => exact constant (renderFrom_column · column _) rfl
    | some s => exact compare column .distinct (.ofScalar s) rfl
  | range relation s => exact compare column (.range relation) (.ofScalar s) rfl
  | text test s =>
    cases test with
    | contains | beginsWith | like => exact compare column .like _ rfl
    | notLike => exact nullOr column (compare column .notLike _ rfl)
  | isIn members =>
    cases members with
    | nil => exact constant (renderFrom_word · _) rfl
    | cons s rest => exact membership column " IN (" (s :: rest)
  | notIn members =>
    cases members with
    | nil => exact constant (renderFrom_word · _) rfl
    | cons s rest => exact nullOr column (membership column " NOT IN (" (s :: rest))

end Writes

/-- The text of alternatives and their values, if there are any. -/
theorem alternatives_eq {run : Writing (List String)} {conditions : List Condition}
    (h : WritesAll run (conditions.map Condition.tokens)) (bound : List Param) :
    (do return Text.alternatives (← run) : Writing (Option String)) bound =
      ((Condition.alternatives conditions).map fun c => renderFrom (bound.length + 1) c.tokens,
        bound ++ params ((Condition.alternatives conditions).elim [] Condition.tokens)) := by
  change (Text.alternatives (run bound).1, (run bound).2) = _
  rw [h, Condition.params_alternatives, List.flatMap_map]
  refine Prod.ext ?_ rfl
  rcases conditions with _ | ⟨first, _ | ⟨second, rest⟩⟩
  · rfl
  · rfl
  · change some (Text.join " OR " ((textsFrom (bound.length + 1)
        ((first :: second :: rest).map Condition.tokens)).map fun text => "(" ++ text ++ ")")) =
      some (renderFrom (bound.length + 1) (Condition.disjunction (first :: second :: rest)).tokens)
    rw [textsFrom_bracketed, join_textsFrom, List.map_map, Condition.tokens,
      Condition.bracketedAll_eq_map]
    rfl

theorem writesAll_ofFilters (filters : Filters) :
    WritesAll (Writing.ofFilters filters) ((Condition.ofFilters filters).map Condition.tokens) := by
  cases filters with
  | nil => exact .nil
  | cons f rest =>
    have hall : WritesAll ((f :: rest).mapM Writing.ofFilter)
        (((f :: rest).map Condition.ofFilter).map Condition.tokens) := by
      rw [List.map_map]
      exact .mapM fun filter _ => .ofTest filter.field.text filter.test
    have hconjunction := hall.join " AND "
    rw [← Condition.tokensAll_eq_map] at hconjunction
    exact .cons hconjunction .nil

/-- Written while its values are bound, a tree has the text and the values of its condition. -/
theorem writing_ofCriteria (c : Criteria) (bound : List Param) :
    Writing.ofCriteria c bound =
      ((Condition.ofCriteria c).map fun condition => renderFrom (bound.length + 1) condition.tokens,
        bound ++ params ((Condition.ofCriteria c).elim [] Condition.tokens)) := by
  induction c using Criteria.induction generalizing bound with
  | node filters order limit offset branches ih =>
    have hbranches : WritesAll (Writing.ofBranches branches)
        ((Condition.ofBranches branches).map Condition.tokens) := by
      induction branches with
      | nil => exact .nil
      | cons b rest ihrest =>
        obtain ⟨hb, hrest⟩ := List.forall_mem_cons.mp ih
        have hwrites : Writes ((·.getD "TRUE") <$> Writing.ofCriteria b)
            ((Condition.ofCriteria b).getD .truth).tokens := by
          intro bound
          change ((Writing.ofCriteria b bound).1.getD "TRUE", (Writing.ofCriteria b bound).2) = _
          rw [hb]
          cases Condition.ofCriteria b with
          | none => rfl
          | some condition => rfl
        rw [Writing.ofBranches, Condition.ofBranches]
        exact .cons hwrites (ihrest hrest)
    have hboth := (writesAll_ofFilters filters).append hbranches
    rw [← List.map_append] at hboth
    exact alternatives_eq hboth bound

theorem writing_eq_query (c : Criteria) :
    Writing.ofCriteria c [] = ((Query.ofCriteria c).whereText, (Query.ofCriteria c).params) := by
  rw [writing_ofCriteria, Query.whereText, Query.whereTokens, Query.params, Query.ofCriteria]
  cases Condition.ofCriteria c with
  | none => rfl
  | some condition => rfl

end QueryCriteria.Sql
