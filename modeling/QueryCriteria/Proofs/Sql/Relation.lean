import QueryCriteria.Proofs.Entries
import QueryCriteria.Proofs.Sql.Upsert
import QueryCriteria.Store.Repository

/-!
Tables of a database, and what becomes of them when a record is stored. Columns that the record does not
name are not assigned: a row that is there already keeps what it has in them.
-/
namespace QueryCriteria.Sql

/-- The value of a column for a JSON value that is not null, if the type of the column admits it. -/
abbrev Conversion (V : Type) := String → Json → Option V

/-- The values of a row by column. NULL is no value. -/
abbrev Tuple (V : Type) := String → Option V

namespace Conversion

variable {V : Type} (conversion : Conversion V)

/-- What a row gets in a column: NULL for null, and where nothing is given. -/
def cell? (column : String) : Option Json → Option (Option V)
  | none | some .null => some none
  | some value => (conversion column value).map some

/-- The row of a record. -/
def tuple (record : Record) : Tuple V := fun column =>
  (conversion.cell? column (Entries.get? record column)).join

/-- The row of a record, if all columns admit its values; fields that are no columns do not count. -/
def populate? (columns : List String) (record : Record) : Option (Tuple V) :=
  if columns.all fun column => (conversion.cell? column (Entries.get? record column)).isSome then
    some (conversion.tuple record)
  else none

/-- Every column admits what a record holds for it. -/
def Admits (record : Record) : Prop :=
  ∀ column, (conversion.cell? column (Entries.get? record column)).isSome = true

variable {conversion}

theorem populate?_of_admits {record : Record} (h : conversion.Admits record) (columns : List String) :
    conversion.populate? columns record = some (conversion.tuple record) := by
  apply if_pos
  rw [List.all_eq_true]
  intro column _
  exact h column

theorem tuple_of_not_mem {record : Record} {column : String} (h : column ∉ Entries.keys record) :
    conversion.tuple record column = none := by
  have hnone : Entries.get? record column = none := by
    rw [← Option.not_isSome_iff_eq_none, ← Entries.mem_keys_iff]
    exact h
  rw [tuple, hnone]
  rfl

end Conversion

/-- A table, whose rows are found by the value of one column: no two of them share it. -/
structure Relation (V : Type) where
  /-- The parts of the name. -/
  name : List String
  columns : List String
  key : String
  row? : V → Option (Tuple V)
  keyed : ∀ k tuple, row? k = some tuple → tuple key = some k

namespace Relation

variable {V : Type} [DecidableEq V] (relation : Relation V)

theorem keyed_put {k : V} {tuple : Tuple V} (h : tuple relation.key = some k) (k' : V) (tuple' : Tuple V)
    (h' : (if k' = k then some tuple else relation.row? k') = some tuple') :
    tuple' relation.key = some k' := by
  split at h'
  · rename_i hk
    subst hk
    obtain rfl := Option.some.inj h'
    exact h
  · exact relation.keyed k' tuple' h'

/-- The table with a row under a key, in place of one that is there; the row must have the key. -/
def put? (k : V) (tuple : Tuple V) : Option (Relation V) :=
  if h : tuple relation.key = some k then
    some { relation with
      row? := fun k' => if k' = k then some tuple else relation.row? k'
      keyed := keyed_put relation h }
  else none

theorem exists_put? {k : V} {tuple : Tuple V} (h : tuple relation.key = some k) :
    ∃ after, relation.put? k tuple = some after ∧ after.row? k = some tuple ∧
      ∀ k', k' ≠ k → after.row? k' = relation.row? k' := by
  refine ⟨_, dif_pos h, if_pos rfl, ?_⟩
  intro k' hk'
  exact if_neg hk'

end Relation

namespace Upsert

variable {V : Type} [DecidableEq V]

/-- The values of a row after the assignments; what is not assigned stays. -/
def assign (upsert : Upsert) (inserted current : Tuple V) : Tuple V := fun column =>
  ((upsert.assignments.lookup column).map inserted).getD (current column)

/-- The statement is about the table: it knows the key, and assigns columns, each of them once. -/
def Concerns (upsert : Upsert) (relation : Relation V) : Prop :=
  upsert.into = relation.name ∧ upsert.rowType = relation.name ∧ upsert.key = relation.key ∧
    (upsert.assignments.map Prod.fst).Nodup ∧
    ∀ assignment ∈ upsert.assignments,
      assignment.1 ∈ relation.columns ∧ assignment.2 ∈ relation.columns

instance (upsert : Upsert) (relation : Relation V) : Decidable (upsert.Concerns relation) :=
  inferInstanceAs (Decidable (_ ∧ _ ∧ _ ∧ _ ∧ _))

/-- Inserts the row of a record, or assigns its values to the row that has its key. -/
def run (conversion : Conversion V) (upsert : Upsert) (record : Record) (relation : Relation V) :
    Option (Relation V) :=
  if upsert.Concerns relation then do
    let inserted ← conversion.populate? relation.columns record
    let k ← inserted relation.key
    relation.put? k ((relation.row? k).elim inserted (upsert.assign inserted))
  else none

end Upsert

/-- The record that a place binds. -/
def Param.record? : Param → Option Record
  | .json (.object record) => some record
  | _ => none

/-- Runs a statement that stores a record; another statement, and one that fails, has no result. -/
def Statement.store? {V : Type} [DecidableEq V] (statement : Statement) (conversion : Conversion V)
    (relation : Relation V) : Option (Relation V) := do
  let upsert ← (alphabet.lex statement.sql.toList).bind Upsert.read
  let param ← statement.params[upsert.place]?
  upsert.run conversion (← param.record?) relation

/-- The row of a record where a row with its key may be there already. -/
def Table.saved {V : Type} (table : Table) (conversion : Conversion V) (record : Record) :
    Option (Tuple V) → Tuple V
  | none => conversion.tuple record
  | some current => fun column =>
    if column ∈ table.updated record then conversion.tuple record column else current column

section Storing

variable {V : Type} {conversion : Conversion V} {table : Table} {record : Record}
  {relation : Relation V}

theorem params_upsert (table : Table) (record : Record) :
    params (table.upsert record) = [.json (.object record)] := by
  have haction : params (table.conflictAction record) = [] := by
    unfold Table.conflictAction
    split
    · rfl
    · change params (separated ", " _) = []
      rw [params_separated, List.flatMap_eq_nil_iff]
      intro tokens htokens
      obtain ⟨column, _, rfl⟩ := List.mem_map.mp htokens
      rfl
  unfold Table.upsert
  simp only [params_append, Upsert.params_tableTokens, haction]
  rfl

private theorem lookup_self (columns : List String) (column : String) :
    (columns.map fun c => (c, c)).lookup column = if column ∈ columns then some column else none := by
  induction columns with
  | nil => rfl
  | cons first rest ih =>
    rw [List.map_cons, List.lookup_cons, ih]
    by_cases h : column = first
    · subst h
      simp
    · have hfirst : (column == first) = false := beq_false_of_ne h
      rw [hfirst]
      simp [h]

/-- The statement that stores a record concerns the table whose columns the record names. -/
theorem concerns_upsert (hname : relation.name = tableParts table.name)
    (hkey : relation.key = table.idField) (hrecord : record.Ascending)
    (hcolumns : ∀ column ∈ Entries.keys record, column ∈ relation.columns) :
    (Upsert.storing table record).Concerns relation := by
  refine ⟨hname.symm, hname.symm, hkey.symm, ?_, ?_⟩
  · have hkeys : (Entries.keys record).Nodup :=
      List.pairwise_map.mpr (hrecord.imp fun hlt => String.ne_of_lt hlt)
    rw [Upsert.storing, List.map_map]
    exact (List.map_id _).symm ▸ hkeys.filter _
  · intro assignment hassignment
    obtain ⟨column, hcolumn, rfl⟩ := List.mem_map.mp hassignment
    have hmem := hcolumns column (List.mem_of_mem_filter hcolumn)
    exact ⟨hmem, hmem⟩

/-- The key of a record that has an identifier is not NULL. -/
theorem exists_key (hadmits : conversion.Admits record) {id : String}
    (hid : recordId table.idField record = .ok id) :
    ∃ k, conversion.tuple record table.idField = some k := by
  have hcell := hadmits table.idField
  unfold recordId at hid
  cases hvalue : Entries.get? record table.idField with
  | none =>
    rw [hvalue] at hid
    cases hid
  | some value =>
    rw [hvalue] at hid hcell
    have hsome : (conversion.cell? table.idField (some value)) =
        (conversion table.idField value).map some := by
      cases value with
      | null => cases hid
      | _ => rfl
    rw [hsome, Option.isSome_map] at hcell
    obtain ⟨k, hk⟩ := Option.isSome_iff_exists.mp hcell
    refine ⟨k, ?_⟩
    rw [Conversion.tuple, hvalue, hsome, hk]
    rfl

/-- Named columns have the values of the record, the others what was there. -/
theorem saved_column (hkey : relation.key = table.idField) {k : V}
    (hk : conversion.tuple record table.idField = some k) (column : String) :
    table.saved conversion record (relation.row? k) column =
      if column ∈ Entries.keys record then conversion.tuple record column
      else (relation.row? k).bind (· column) := by
  have hupdated : column ∈ table.updated record ↔
      column ∈ Entries.keys record ∧ column ≠ table.idField := by
    simp [Table.updated]
  cases hprior : relation.row? k with
  | none =>
    split
    · rfl
    · rename_i hnot
      exact Conversion.tuple_of_not_mem hnot
  | some prior =>
    have hpriorKey : prior table.idField = some k := hkey ▸ relation.keyed k prior hprior
    rw [Table.saved, Option.bind_some]
    dsimp only
    by_cases hid : column = table.idField
    · subst hid
      rw [if_neg (fun h => (hupdated.mp h).2 rfl), hpriorKey, hk, ite_self]
    · simp only [hupdated, hid, ne_eq, not_false_eq_true, and_true]

variable [DecidableEq V]

/-- Running the statement puts one row. -/
theorem store?_upsert (hname : relation.name = tableParts table.name)
    (hkey : relation.key = table.idField) (hrecord : record.Ascending)
    (hcolumns : ∀ column ∈ Entries.keys record, column ∈ relation.columns)
    (hadmits : conversion.Admits record) {k : V} (hk : conversion.tuple record table.idField = some k) :
    (Statement.ofTokens (table.upsert record)).store? conversion relation =
      relation.put? k (table.saved conversion record (relation.row? k)) := by
  have hsaved : (relation.row? k).elim (conversion.tuple record)
      ((Upsert.storing table record).assign (conversion.tuple record)) =
        table.saved conversion record (relation.row? k) := by
    cases relation.row? k with
    | none => rfl
    | some current =>
      funext column
      change ((((table.updated record).map fun c => (c, c)).lookup column).map _).getD _ =
        if _ then _ else _
      rw [lookup_self]
      split <;> rfl
  rw [Statement.store?, Statement.ofTokens, table.read_upsert, params_upsert]
  change (Upsert.storing table record).run conversion record relation = _
  rw [Upsert.run, if_pos (concerns_upsert hname hkey hrecord hcolumns),
    Conversion.populate?_of_admits hadmits]
  change ((conversion.tuple record relation.key).bind fun k => _) = _
  rw [hkey, hk, ← hsaved]
  rfl

/--
Storing a record under its identifier always succeeds, and changes no other row. The named columns get the
values of the record, and the others keep what they have; so the row is that of the record exactly if the
row that was there, if any, holds NULL wherever the record names nothing.
-/
theorem upsert_replaces_iff (conversion : Conversion V) (table : Table) (relation : Relation V)
    (hname : relation.name = tableParts table.name) (hkey : relation.key = table.idField)
    {record : Record} (hrecord : record.Ascending) {id : String}
    (hid : recordId table.idField record = .ok id)
    (hcolumns : ∀ column ∈ Entries.keys record, column ∈ relation.columns)
    (hadmits : conversion.Admits record) :
    ∃ statement after k saved, table.commands.upsert id record = .ok statement ∧
      statement.store? conversion relation = some after ∧
      conversion.tuple record table.idField = some k ∧ after.row? k = some saved ∧
      (∀ k', k' ≠ k → after.row? k' = relation.row? k') ∧
      (∀ column, saved column = if column ∈ Entries.keys record then conversion.tuple record column
        else (relation.row? k).bind (· column)) ∧
      ((∀ column ∈ relation.columns, saved column = conversion.tuple record column) ↔
        ∀ prior ∈ relation.row? k, ∀ column ∈ relation.columns,
          column ∉ Entries.keys record → prior column = none) := by
  obtain ⟨k, hk⟩ := exists_key hadmits hid
  let saved : Tuple V := table.saved conversion record (relation.row? k)
  have hsaved : ∀ column, saved column = if column ∈ Entries.keys record then
      conversion.tuple record column else (relation.row? k).bind (· column) := saved_column hkey hk
  have hsavedKey : saved relation.key = some k := by
    have hmem : table.idField ∈ Entries.keys record := by
      apply Decidable.of_not_not
      intro hnot
      rw [Conversion.tuple_of_not_mem hnot] at hk
      cases hk
    rw [hkey, hsaved, if_pos hmem, hk]
  obtain ⟨after, hput, hrow, hother⟩ := relation.exists_put? hsavedKey
  refine ⟨_, after, k, saved, rfl, ?_, hk, hrow, hother, hsaved, ?_⟩
  · exact (store?_upsert hname hkey hrecord hcolumns hadmits hk).trans hput
  · constructor
    · intro hsame prior hprior column hcolumn hnot
      have hkept := hsaved column
      rw [if_neg hnot, hprior, hsame column hcolumn, Conversion.tuple_of_not_mem hnot] at hkept
      exact hkept.symm
    · intro hnull column hcolumn
      rw [hsaved]
      split
      · rfl
      · rename_i hnot
        rw [Conversion.tuple_of_not_mem hnot]
        cases hprior : relation.row? k with
        | none => rfl
        | some prior => exact hnull prior hprior column hcolumn hnot

end Storing

/-- Columns of texts admit nothing else. -/
def textColumns : Conversion String := fun _ value => value.text?

/-- Users with their names and nicknames. There is one, who may have a nickname. -/
def users (nick : Option String) : Relation String where
  name := ["users"]
  columns := ["id", "name", "nick"]
  key := "id"
  row? k := if k = "u1" then
      some fun column => Option.join
        (List.lookup column [("id", some "u1"), ("name", some "Ada L."), ("nick", nick)])
    else none
  keyed k tuple h := by
    split at h
    · rename_i hk
      subst hk
      obtain rfl := Option.some.inj h
      rfl
    · cases h

/-- The same user under another name, with nothing said of a nickname. -/
def renamed : Record := [("id", .text "u1"), ("name", .text "Ada")]

theorem renamed_ascending : renamed.Ascending := by
  unfold renamed Entries.Ascending
  decide

theorem renamed_columns (nick : Option String) :
    ∀ column ∈ Entries.keys renamed, column ∈ (users nick).columns := by
  change ∀ column ∈ ["id", "name"], column ∈ ["id", "name", "nick"]
  decide

theorem renamed_admitted : textColumns.Admits renamed := by
  intro column
  unfold renamed Entries.get?
  split
  · rfl
  · unfold Entries.get?
    split <;> rfl

theorem upsert_replaces_iff_renamed :
    (users none).name = tableParts "users" ∧ (users none).key = defaultIdField ∧ renamed.Ascending ∧
    recordId defaultIdField renamed = .ok "u1" ∧
    (∀ column ∈ Entries.keys renamed, column ∈ (users none).columns) ∧ textColumns.Admits renamed ∧
    ∃ statement after k saved,
      (Table.mk "users" defaultIdField).commands.upsert "u1" renamed = .ok statement ∧
      statement.store? textColumns (users none) = some after ∧
      textColumns.tuple renamed defaultIdField = some k ∧ after.row? k = some saved ∧
      (∀ k', k' ≠ k → after.row? k' = (users none).row? k') ∧
      (∀ column, saved column = if column ∈ Entries.keys renamed then textColumns.tuple renamed column
        else ((users none).row? k).bind (· column)) ∧
      ((∀ column ∈ (users none).columns, saved column = textColumns.tuple renamed column) ↔
        ∀ prior ∈ (users none).row? k, ∀ column ∈ (users none).columns,
          column ∉ Entries.keys renamed → prior column = none) := by
  have hname : (users none).name = tableParts "users" := by decide
  exact ⟨hname, rfl, renamed_ascending, rfl, renamed_columns none, renamed_admitted,
    upsert_replaces_iff textColumns ⟨"users", defaultIdField⟩ (users none) hname rfl renamed_ascending rfl
      (renamed_columns none) renamed_admitted⟩

/-- The nickname outlives the record that has none, though a new row would have NULL there. -/
theorem upsert_keeps_nick :
    recordId defaultIdField renamed = .ok "u1" ∧
    (∀ column ∈ Entries.keys renamed, column ∈ (users (some "ada")).columns) ∧
    "nick" ∈ (users (some "ada")).columns ∧ textColumns.tuple renamed "nick" = none ∧
    ∃ statement after saved,
      (Table.mk "users" defaultIdField).commands.upsert "u1" renamed = .ok statement ∧
      statement.store? textColumns (users (some "ada")) = some after ∧ after.row? "u1" = some saved ∧
      saved "name" = some "Ada" ∧ saved "nick" = some "ada" := by
  let table : Table := ⟨"users", defaultIdField⟩
  let relation : Relation String := users (some "ada")
  have hname : relation.name = tableParts table.name := by decide
  have hput : ∃ after,
      (Statement.ofTokens (table.upsert renamed)).store? textColumns relation = some after ∧
      after.row? "u1" = some (table.saved textColumns renamed (relation.row? "u1")) ∧
      ∀ k', k' ≠ "u1" → after.row? k' = relation.row? k' := by
    rw [store?_upsert hname rfl renamed_ascending (renamed_columns (some "ada")) renamed_admitted rfl]
    exact relation.exists_put? (by decide)
  obtain ⟨after, hrun, hrow, _⟩ := hput
  exact ⟨rfl, renamed_columns (some "ada"), by decide, by decide, _, after, _, rfl, hrun, hrow,
    by decide, by decide⟩

end QueryCriteria.Sql
