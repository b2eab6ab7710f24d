import QueryCriteria.Proofs.Sql.Vocabulary
import QueryCriteria.Proofs.Sql.Where

/-!
The names that SQL statements hold: whatever a table, a column or a field is called, it is quoted where
it is named, and nothing of it is read as anything else.
-/
namespace QueryCriteria

/--
The columns that the condition of a filter names, as often as it does: a negation asks for NULL as
well, and an empty list is decided without its column.
-/
def Filter.columns (f : Filter) : List String :=
  match f.test with
  | .isIn [] | .notIn [] => []
  | .notIn _ | .text .notLike _ => [f.field.text, f.field.text]
  | _ => [f.field.text]

/-- The columns that rows are sorted by. -/
def Order.columns (order : Order) : List String :=
  match order.type with
  | .none => []
  | _ => order.fields.map FieldName.text

namespace Sql

/-- The columns that an upsert sets in a row that is there already. -/
def Table.updated (table : Table) (record : Record) : List String :=
  record.keys.filter (· ≠ table.idField)

namespace Quotes

variable {numbers : List Nat}

theorem compare (column : String) (comparison : Comparison) (operand : Param) :
    Quotes numbers [.identifier column, .fixed (" " ++ comparison.text ++ " "), .param operand]
      [column] := by
  have hseam : Seam (" " ++ comparison.text ++ " ") := by
    cases comparison with
    | range relation => cases relation <;> decide
    | _ => decide
  exact between (name column) hseam (place operand)

/-- The condition of a filter names the column of the filter. -/
theorem ofFilter (f : Filter) : Quotes numbers (Condition.ofFilter f).tokens f.columns := by
  obtain ⟨field, test⟩ := f
  have hconstant (b : Bool) : Quotes numbers [.fixed (if b then "TRUE" else "FALSE")] [] := by
    cases b <;> exact text (by decide)
  have hnull (start : String) (h : Worded start = true) (hs : alphabet.startsLoose start = true) :
      Quotes numbers [.identifier field.text, .fixed start] [field.text] :=
    append_fixed (name field.text) (text h) hs
  cases test with
  | equal operand =>
    cases operand with
    | none => exact hnull " IS NULL" (by decide) (by decide)
    | some s => exact compare field.text .equal _
  | notEqual operand =>
    cases operand with
    | none => exact hnull " IS NOT NULL" (by decide) (by decide)
    | some s => exact compare field.text .distinct _
  | range relation s => exact compare field.text (.range relation) _
  | text test s =>
    cases test with
    | notLike => exact nullOr field.text (compare field.text .notLike _)
    | _ => exact compare field.text .like _
  | isIn members =>
    cases members with
    | nil => exact hconstant false
    | cons s rest =>
      exact Quotes.members field.text " IN (" (by decide) _
  | notIn members =>
    cases members with
    | nil => exact hconstant true
    | cons s rest =>
      exact nullOr field.text
        (Quotes.members field.text " NOT IN (" (by decide) _)

theorem alternatives {conditions : List Condition} {names : List (List String)}
    (h : List.Forall₂ (fun condition ns => Quotes numbers condition.tokens ns) conditions names)
    {condition : Condition} (hc : Condition.alternatives conditions = some condition) :
    Quotes numbers condition.tokens names.flatten := by
  match conditions, h with
  | [], _ => cases hc
  | [first], .cons hfirst .nil =>
    obtain rfl : first = condition := Option.some.inj hc
    rwa [List.flatten_singleton]
  | first :: second :: rest, hall =>
    obtain rfl : Condition.disjunction (first :: second :: rest) = condition := Option.some.inj hc
    rw [Condition.tokens, Condition.bracketedAll_eq_map]
    refine separated (by decide) ?_
    rw [List.forall₂_map_left_iff]
    exact hall.imp fun _ _ hp => bracket hp

theorem ofFilters (filters : Filters) :
    List.Forall₂ (fun condition ns => Quotes numbers condition.tokens ns)
      (Condition.ofFilters filters) (if filters = [] then [] else [filters.flatMap Filter.columns]) := by
  cases filters with
  | nil => exact .nil
  | cons f rest =>
    refine .cons ?_ .nil
    rw [Condition.tokens, Condition.tokensAll_eq_map, List.map_map]
    exact separated_map (by decide) fun f _ => ofFilter f

/-- The condition of a tree names the columns of its filters. -/
theorem ofCriteria (c : Criteria) {condition : Condition}
    (hc : Condition.ofCriteria c = some condition) :
    Quotes numbers condition.tokens (c.allFilters.flatMap Filter.columns) := by
  induction c using Criteria.induction generalizing condition with
  | node filters order limit offset branches ih =>
    have hbranches : List.Forall₂ (fun condition ns => Quotes numbers condition.tokens ns)
        (Condition.ofBranches branches)
        (branches.map fun b => b.allFilters.flatMap Filter.columns) := by
      rw [Condition.ofBranches_eq_map, List.forall₂_map_left_iff, List.forall₂_map_right_iff,
        List.forall₂_same]
      intro b hb
      cases hcb : Condition.ofCriteria b with
      | none =>
        obtain ⟨hf, hbs⟩ := Condition.ofCriteria_eq_none.mp hcb
        rw [Criteria.allFilters_eq, hf, hbs]
        exact text (by decide)
      | some condition => exact ih b hb hcb
    have hown : (if filters = [] then [] else [filters.flatMap Filter.columns]).flatten =
        filters.flatMap Filter.columns := by
      cases filters with
      | nil => rfl
      | cons f rest => exact List.append_nil _
    have hall := alternatives (List.rel_append (ofFilters filters) hbranches) hc
    rw [List.flatten_append, hown, ← List.flatMap_def, ← List.flatMap_assoc,
      ← List.flatMap_append] at hall
    rw [Criteria.allFilters_eq]
    exact hall

theorem whereTokens (c : Criteria) :
    Quotes numbers ((Query.ofCriteria c).whereTokens.getD []) (c.allFilters.flatMap Filter.columns) := by
  cases hc : Condition.ofCriteria c with
  | none =>
    obtain ⟨hf, hbs⟩ := Condition.ofCriteria_eq_none.mp hc
    rw [Criteria.allFilters_eq, hf, hbs, Query.whereTokens, Query.ofCriteria, hc]
    exact nil
  | some condition =>
    rw [Query.whereTokens, Query.ofCriteria, hc]
    exact ofCriteria c hc

private theorem sortTokens (fields : List FieldName) {direction : String}
    (h : Worded (" " ++ direction) = true) (hs : alphabet.startsLoose (" " ++ direction) = true) :
    Quotes numbers ((Query.sortTokens fields direction).getD []) (fields.map FieldName.text) := by
  cases fields with
  | nil => exact nil
  | cons field rest =>
    rw [List.map_eq_flatMap]
    exact separated_map (by decide)
      fun field _ => append_fixed (name field.text) (text h) hs

theorem orderTokens (query : Query) :
    Quotes numbers (query.orderTokens.getD []) query.order.columns := by
  unfold Query.orderTokens Order.columns
  cases query.order.type with
  | none => exact nil
  | asc => exact sortTokens _ (by decide) (by decide)
  | desc => exact sortTokens _ (by decide) (by decide)

theorem number {n : UInt64} (h : n.toNat ∈ numbers) : Quotes numbers (Query.number n) [] := by
  have hdigits : ∀ c ∈ (toString n.toNat).toList, alphabet.word c = true := by
    intro c hc
    rw [Decimal.toList_toString] at hc
    exact word_of_isDigit (Nat.isDigit_of_mem_toDigits (by decide) (by decide) hc)
  have hne : toString n.toNat ≠ "" := by
    intro he
    have hnil : (toString n.toNat).toList = [] := by rw [he]; rfl
    rw [Decimal.toList_toString] at hnil
    exact Decimal.toDigits_ne_nil _ hnil
  have hlex : alphabet.Lexes (toString n.toNat) [.word (toString n.toNat)] :=
    Text.Alphabet.lexes_word (by decide) (by decide) hne hdigits
  refine ⟨.singleton ⟨hne, ?_⟩, rfl, List.forall_mem_singleton.mpr fun l hl => ?_⟩
  · rw [hlex]
    rfl
  · rw [hlex] at hl
    exact .inr ⟨n.toNat, h, List.mem_singleton.mp hl⟩

/-- A clause behind other tokens. -/
theorem append_clause {as : List Token} {ns ms : List String} (ha : Quotes numbers as ns)
    (keyword : String) (h : Seam (" " ++ keyword ++ " ")) {tokens : Option (List Token)}
    (ht : Quotes numbers (tokens.getD []) ms) :
    Quotes numbers (as ++ Query.clause keyword tokens) (ns ++ ms) := by
  cases tokens with
  | none => exact append ha ht nofun
  | some tokens => exact between ha h ht

theorem limit {o : Option UInt64} (h : ∀ n ∈ o, n.toNat ∈ numbers) :
    Quotes numbers ((o.map Query.number).getD []) [] := by
  cases o with
  | none => exact nil
  | some n => exact number (h n rfl)

/-- The clauses name what the condition tests and then what rows are sorted by. -/
theorem clauses {as : List Token} {ns : List String} (ha : Quotes numbers as ns) (c : Criteria)
    (hlimit : ∀ n ∈ c.limit, n.toNat ∈ numbers) (hoffset : ∀ n ∈ c.offset, n.toNat ∈ numbers) :
    Quotes numbers (as ++ (Query.ofCriteria c).tokens)
      (ns ++ c.allFilters.flatMap Filter.columns ++ c.order.columns) := by
  have hwhere := append_clause ha "WHERE" (by decide) (whereTokens c)
  have horder := append_clause hwhere "ORDER BY" (by decide)
    (orderTokens (Query.ofCriteria c))
  have hrows := append_clause horder "LIMIT" (by decide)
    (limit hlimit)
  have hstart := append_clause hrows "OFFSET" (by decide)
    (limit hoffset)
  rw [List.append_nil, List.append_nil] at hstart
  rw [Query.tokens, ← List.append_assoc, ← List.append_assoc, ← List.append_assoc]
  exact hstart

theorem table (name : String) : Quotes numbers (tableTokens name) (tableParts name) := by
  have hparts : Quotes numbers (tableTokens name) ((tableParts name).flatMap fun part => [part]) :=
    separated_map (by decide) fun part _ => Quotes.name part
  rwa [List.flatMap_singleton'] at hparts

private theorem exists_of_head_tableTokens {name : String} {token : Token}
    (h : token ∈ (tableTokens name).head?) : ∃ part, token = .identifier part := by
  unfold tableTokens at h
  cases hparts : tableParts name with
  | nil =>
    rw [hparts] at h
    cases h
  | cons part rest =>
    rw [hparts] at h
    refine ⟨part, ?_⟩
    cases rest <;> exact (Option.some.inj h).symm

theorem select (t : Table) : Quotes numbers t.select (tableParts t.name) := by
  have htable : Quotes numbers (tableTokens t.name ++ [.fixed " AS t"]) (tableParts t.name ++ []) :=
    append_fixed (table t.name) (text (by decide)) (by decide)
  rw [List.append_nil] at htable
  exact cons (by decide) (by decide) htable

/-- The identifier's condition behind other tokens. -/
theorem append_idCondition {as : List Token} {ns : List String} (ha : Quotes numbers as ns)
    (t : Table) (id : String) : Quotes numbers (as ++ t.idCondition id) (ns ++ [t.idField]) := by
  have hvalue : Quotes numbers [.fixed "::text = ", .param (.text id)] [] :=
    cons (by decide) (by decide) (place _)
  have hcolumn : Quotes numbers [.identifier t.idField, .fixed "::text = ", .param (.text id)]
      [t.idField] := by
    refine append (name t.idField) hvalue fun a ha b hb => ?_
    cases ha
    cases hb
    exact Token.apart_of_chars rfl rfl rfl
  exact append_fixed ha (cons (by decide) (by decide) hcolumn) (by decide)

theorem delete (t : Table) (id : String) :
    Quotes numbers (t.delete id) (tableParts t.name ++ [t.idField]) :=
  append_idCondition (cons (by decide) (by decide) (table t.name)) t id

theorem conflictAction (t : Table) (record : Record) :
    Quotes numbers (t.conflictAction record)
      ((t.updated record).flatMap fun column => [column, column]) := by
  have hcolumn (column : String) :
      Quotes numbers [.identifier column, .fixed " = EXCLUDED.", .identifier column]
        [column, column] :=
    between (name column) (by decide) (name column)
  unfold Table.conflictAction Table.updated
  cases record.keys.filter (· ≠ t.idField) with
  | nil => exact text (by decide)
  | cons column rest =>
    exact cons (by decide) (by decide)
      (separated_map (by decide) fun column _ => hcolumn column)

theorem upsert (t : Table) (record : Record) :
    Quotes numbers (t.upsert record) (tableParts t.name ++ tableParts t.name ++ t.idField ::
      (t.updated record).flatMap fun column => [column, column]) := by
  have hinto : Quotes numbers ([.fixed "INSERT INTO "] ++ tableTokens t.name) (tableParts t.name) :=
    cons (by decide) (by decide) (table t.name)
  have hrow : Quotes numbers ([.fixed "INSERT INTO "] ++ tableTokens t.name
      ++ [.fixed " SELECT * FROM jsonb_populate_record(NULL::"]) (tableParts t.name) := by
    rw [← List.append_nil (tableParts t.name)]
    exact append_fixed hinto (text (by decide)) (by decide)
  have htype : Quotes numbers ([.fixed "INSERT INTO "] ++ tableTokens t.name
      ++ [.fixed " SELECT * FROM jsonb_populate_record(NULL::"] ++ tableTokens t.name)
      (tableParts t.name ++ tableParts t.name) := by
    refine append hrow (table t.name) fun a ha b hb => ?_
    rw [List.getLast?_concat, Option.mem_some] at ha
    obtain ⟨part, rfl⟩ := exists_of_head_tableTokens hb
    subst ha
    exact Token.apart_of_chars rfl rfl rfl
  have hconflict : Quotes numbers ([.identifier t.idField] ++ .fixed ") " :: t.conflictAction record)
      ([t.idField] ++ (t.updated record).flatMap fun column => [column, column]) :=
    between (name t.idField) (by decide) (conflictAction t record)
  have hrest : Quotes numbers (.fixed ", " :: ([.param (.json (.object record))] ++
      .fixed ") ON CONFLICT (" :: ([.identifier t.idField] ++ .fixed ") " :: t.conflictAction record)))
      ([] ++ ([t.idField] ++ (t.updated record).flatMap fun column => [column, column])) :=
    cons (by decide) (by decide) (between (place _) (by decide) hconflict)
  rw [Table.upsert, List.append_assoc]
  exact append_fixed htype hrest (by decide)

end Quotes

/--
Whatever names occur, the texts of all statements are cut into exactly these names, each one quoted
lexeme, and into permitted lexemes. A table is named part by part, as the points in its name say.
-/
theorem commands_quote (table : Table) :
    (Text.join "." (tableParts table.name) = table.name ∧
      ∀ part ∈ tableParts table.name, '.' ∉ part.toList) ∧
    (∃ s, table.commands.findAll = .ok s ∧ s.Quotes (tableParts table.name) []) ∧
    (∀ id, ∃ s, table.commands.findById id = .ok s ∧
      s.Quotes (tableParts table.name ++ [table.idField]) []) ∧
    (∀ id, ∃ s, table.commands.delete id = .ok s ∧
      s.Quotes (tableParts table.name ++ [table.idField]) []) ∧
    (∀ id record, ∃ s, table.commands.upsert id record = .ok s ∧
      s.Quotes (tableParts table.name ++ tableParts table.name ++ table.idField ::
        (table.updated record).flatMap fun column => [column, column]) []) ∧
    ∀ c : Criteria, ∃ s, table.commands.matching c = .ok (.native s) ∧
      s.Quotes (tableParts table.name ++ c.allFilters.flatMap Filter.columns ++ c.order.columns)
        ((c.limit.toList ++ c.offset.toList).map UInt64.toNat) := by
  refine ⟨⟨Text.join_split '.' table.name, fun _ hp => Text.not_mem_of_mem_split hp⟩, ?_, fun id => ?_,
    fun id => ?_, fun id record => ?_, fun c => ?_⟩
  · exact ⟨_, rfl, (Quotes.select table).statement⟩
  · exact ⟨_, rfl, (Quotes.append_idCondition (Quotes.select table) table id).statement⟩
  · exact ⟨_, rfl, (Quotes.delete table id).statement⟩
  · exact ⟨_, rfl, (Quotes.upsert table record).statement⟩
  · refine ⟨_, rfl, (Quotes.clauses (Quotes.select table) c ?_ ?_).statement⟩
    · intro n hn
      exact List.mem_map_of_mem (List.mem_append_left _ (Option.mem_toList.mpr hn))
    · intro n hn
      exact List.mem_map_of_mem (List.mem_append_right _ (Option.mem_toList.mpr hn))

example : render (Table.delete ⟨"app.us\"ers", "i.d; --"⟩ "u1") =
    "DELETE FROM \"app\".\"us\"\"ers\" WHERE \"i.d; --\"::text = $1" := by
  decide

end Sql

end QueryCriteria
