import QueryCriteria.Proofs.Sql.Names
import QueryCriteria.Proofs.Sql.Reads
import QueryCriteria.Proofs.Success

/-!
The statement that stores a record, as a database reads it. It inserts a row, and says which columns of
a row with the same key are assigned instead.
-/
namespace QueryCriteria.Sql

open Text (Lexeme LexemeReader)
open Text.Formula (joined)

/-- A row inserted from a JSON value, or columns assigned from that row where its key is taken. -/
structure Upsert where
  /-- The parts of the table's name. -/
  into : List String
  /-- The type of the row, which bears the name of a table. -/
  rowType : List String
  /-- The place of the JSON value. -/
  place : Nat
  /-- The column that must not hold a value twice. -/
  key : String
  /-- The columns that are assigned, each with the one of the inserted row that it takes its value from. -/
  assignments : List (String × String)
deriving DecidableEq

namespace Upsert

/-- A name with points between its parts. -/
def qualified : LexemeReader (List String)
  | .quoted part :: .mark '.' :: rest => (qualified rest).map fun read => (part :: read.1, read.2)
  | .quoted part :: rest => some ([part], rest)
  | _ => none

def assignment? : List Lexeme → Option (String × String)
  | [.quoted column, .sign "=", .word "EXCLUDED", .mark '.', .quoted source] => some (column, source)
  | _ => none

/-- What is done with a row that is there already; nothing assigns no columns. -/
def readAction : List Lexeme → Option (List (String × String))
  | [.word "NOTHING"] => some []
  | .word "UPDATE" :: .word "SET" :: rest => (rest.splitOn (.mark ',')).mapM assignment?
  | _ => none

def readConflict (into rowType : List String) (place : Nat) : List Lexeme → Option Upsert
  | .word "ON" :: .word "CONFLICT" :: .mark '(' :: .quoted key :: .mark ')' :: .word "DO" :: rest =>
    (readAction rest).map (⟨into, rowType, place, key, ·⟩)
  | _ => none

def readValue (into rowType : List String) : List Lexeme → Option Upsert
  | .mark ',' :: .word s :: .mark ')' :: rest => do readConflict into rowType (← Predicate.place? s) rest
  | _ => none

def readRow (into : List String) : List Lexeme → Option Upsert
  | .word "SELECT" :: .sign "*" :: .word "FROM" :: .word "jsonb_populate_record" :: .mark '('
    :: .word "NULL" :: .sign "::" :: rest => do
    let (rowType, rest) ← qualified rest
    readValue into rowType rest
  | _ => none

/-- The upsert that lexemes spell. -/
def read : List Lexeme → Option Upsert
  | .word "INSERT" :: .word "INTO" :: rest => do
    let (into, rest) ← qualified rest
    readRow into rest
  | _ => none

theorem qualified_joined {parts : List String} (hparts : parts ≠ []) {rest : List Lexeme}
    (hrest : rest.head? ≠ some (.mark '.')) :
    qualified (joined (.mark '.') (parts.map fun part => [.quoted part]) ++ rest) =
      some (parts, rest) := by
  induction parts with
  | nil => exact absurd rfl hparts
  | cons part parts ih =>
    cases parts with
    | nil =>
      change qualified (.quoted part :: rest) = _
      unfold qualified
      split
      · rename_i heq
        obtain ⟨_, rfl⟩ := List.cons.inj heq
        exact absurd rfl hrest
      · rename_i heq
        obtain ⟨hpart, rfl⟩ := List.cons.inj heq
        obtain rfl := Lexeme.quoted.inj hpart
        rfl
      · rename_i hnone
        exact absurd rfl (hnone part rest)
    | cons next parts =>
      change (qualified (joined (.mark '.') ((next :: parts).map fun part => [.quoted part]) ++ rest)).map
        (fun read => (part :: read.1, read.2)) = _
      rw [ih (List.cons_ne_nil next parts)]
      rfl

private theorem tableParts_ne_nil (name : String) : tableParts name ≠ [] := by
  intro h
  exact Text.splitChars_ne_nil '.' name.toList (List.map_eq_nil_iff.mp h)

private theorem lexemesFrom_tableTokens (k : Nat) (name : String) :
    lexemesFrom k (tableTokens name) =
      joined (.mark '.') ((tableParts name).map fun part => [.quoted part]) := by
  rw [tableTokens, lexemesFrom_separated (l := .mark '.') rfl]
  exact congrArg _ (lexemesAll_map (fun k part => rfl) k (tableParts name))

theorem params_tableTokens (name : String) : params (tableTokens name) = [] := by
  rw [tableTokens, params_separated]
  simp [params]

/-- The lexemes of an assignment. -/
def assigns (column : String) : List Lexeme :=
  [.quoted column, .sign "=", .word "EXCLUDED", .mark '.', .quoted column]

private theorem lexemesFrom_assignments (k : Nat) (columns : List String) :
    lexemesFrom k (separated ", " (columns.map fun column =>
      [.identifier column, .fixed " = EXCLUDED.", .identifier column])) =
      joined (.mark ',') (columns.map assigns) := by
  rw [lexemesFrom_separated (l := .mark ',') rfl]
  apply congrArg
  apply lexemesAll_map
  intro k column
  rfl

/-- The action is read as one assignment for each column but the key. -/
theorem readAction_conflictAction (table : Table) (record : Record) (k : Nat) :
    ∃ action, lexemesFrom k (table.conflictAction record) = .word "DO" :: action ∧
      readAction action = some ((table.updated record).map fun column => (column, column)) := by
  unfold Table.conflictAction Table.updated
  cases hcolumns : record.keys.filter (· ≠ table.idField) with
  | nil => exact ⟨[.word "NOTHING"], rfl, rfl⟩
  | cons first rest =>
    refine ⟨.word "UPDATE" :: .word "SET" :: joined (.mark ',') ((first :: rest).map assigns), ?_, ?_⟩
    · rw [← lexemesFrom_assignments k]
      rfl
    · have hcomma : ∀ l ∈ (first :: rest).map assigns, Lexeme.mark ',' ∉ l := by
        intro l hl
        obtain ⟨column, _, rfl⟩ := List.mem_map.mp hl
        simp [assigns]
      change ((joined (.mark ',') ((first :: rest).map assigns)).splitOn _).mapM _ = _
      rw [Text.Formula.splitOn_joined hcomma (List.cons_ne_nil _ _)]
      apply mapM_map_eq_some
      intro column _
      rfl

/-- The upsert of a record, which assigns every column that it names but the key. -/
def storing (table : Table) (record : Record) : Upsert where
  into := tableParts table.name
  rowType := tableParts table.name
  place := 0
  key := table.idField
  assignments := (table.updated record).map fun column => (column, column)

end Upsert

/-- The statement that stores a record is read as its upsert. -/
theorem Table.read_upsert (table : Table) (record : Record) :
    (alphabet.lex (render (table.upsert record)).toList).bind Upsert.read =
      some (.storing table record) := by
  have hquotes : Quotes [] (table.upsert record) _ := Quotes.upsert table record
  obtain ⟨action, haction, hread⟩ := Upsert.readAction_conflictAction table record 2
  let parts : List Lexeme := joined (.mark '.') ((tableParts table.name).map fun part => [.quoted part])
  let value : List Lexeme := .mark ',' :: .word ("$" ++ toString 1) :: .mark ')' :: .word "ON"
    :: .word "CONFLICT" :: .mark '(' :: .quoted table.idField :: .mark ')' :: .word "DO" :: action
  let row : List Lexeme := .word "SELECT" :: .sign "*" :: .word "FROM" :: .word "jsonb_populate_record"
    :: .mark '(' :: .word "NULL" :: .sign "::" :: (parts ++ value)
  have hlexemes : lexemesFrom 1 (table.upsert record) = .word "INSERT" :: .word "INTO" :: (parts ++ row) := by
    have hinsert : lexemesFrom 1 [.fixed "INSERT INTO "] = [.word "INSERT", .word "INTO"] := rfl
    have hselect : lexemesFrom 1 [.fixed " SELECT * FROM jsonb_populate_record(NULL::"] =
        [.word "SELECT", .sign "*", .word "FROM", .word "jsonb_populate_record", .mark '(',
          .word "NULL", .sign "::"] := rfl
    have hconflict : lexemesFrom 1 [.fixed ", ", .param (.json (.object record)),
        .fixed ") ON CONFLICT (", .identifier table.idField, .fixed ") "] =
        [.mark ',', .word ("$" ++ toString 1), .mark ')', .word "ON", .word "CONFLICT", .mark '(',
          .quoted table.idField, .mark ')'] := rfl
    unfold Table.upsert
    simp only [lexemesFrom_append, Upsert.lexemesFrom_tableTokens, params_append,
      Upsert.params_tableTokens]
    -- The only parameter is the record, so the table and its type stand before all places.
    change lexemesFrom 1 [.fixed "INSERT INTO "] ++ parts
      ++ lexemesFrom 1 [.fixed " SELECT * FROM jsonb_populate_record(NULL::"] ++ parts
      ++ lexemesFrom 1 [.fixed ", ", .param (.json (.object record)), .fixed ") ON CONFLICT (",
        .identifier table.idField, .fixed ") "]
      ++ lexemesFrom 2 (table.conflictAction record) = _
    rw [hinsert, hselect, hconflict, haction]
    simp [row, value]
  have hvalue : Upsert.readValue (tableParts table.name) (tableParts table.name) value =
      some (.storing table record) := by
    change ((Predicate.place? ("$" ++ toString (0 + 1))).bind fun place =>
      (Upsert.readAction action).map (Upsert.mk _ _ place table.idField)) = _
    rw [place?_number, hread]
    rfl
  have hrow : Upsert.readRow (tableParts table.name) row = some (.storing table record) := by
    change ((Upsert.qualified (parts ++ value)).bind fun read => Upsert.readValue _ read.1 read.2) = _
    rw [Upsert.qualified_joined (Upsert.tableParts_ne_nil table.name) (by intro h; cases h)]
    exact hvalue
  rw [render, lex_renderFrom hquotes.legible, hlexemes]
  change ((Upsert.qualified (parts ++ row)).bind fun read => Upsert.readRow read.1 read.2) = _
  rw [Upsert.qualified_joined (Upsert.tableParts_ne_nil table.name) (by intro h; cases h)]
  exact hrow

end QueryCriteria.Sql
