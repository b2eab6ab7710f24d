import QueryCriteria.Proofs.Sql.Legible
import QueryCriteria.Sql.Commands

/-!
Statements in which names stay names. Tokens whose own text is made of a fixed vocabulary are cut into
their names, each one quoted lexeme, and for the rest into the vocabulary, places and numbers.
-/
namespace QueryCriteria

open Text (Lexeme Alphabet)

/-- The name that a quoted lexeme stands for. -/
def Text.Lexeme.name? : Lexeme → Option String
  | .quoted name => some name
  | _ => none

namespace Sql

/-- The words of statements. -/
def keywords : List String :=
  ["SELECT", "to_jsonb", "t", "AS", "record", "FROM", "WHERE", "text", "INSERT", "INTO",
    "jsonb_populate_record", "NULL", "ON", "CONFLICT", "DO", "NOTHING", "UPDATE", "SET", "EXCLUDED",
    "DELETE", "TRUE", "FALSE", "IS", "NOT", "DISTINCT", "LIKE", "IN", "AND", "OR", "ORDER", "BY", "ASC",
    "DESC", "LIMIT", "OFFSET"]

/-- The operators of statements. -/
def operators : List String :=
  ["=", "<", "<=", ">", ">=", "::", "*"]

/-- All that statements hold of their own. -/
def vocabulary : List Lexeme :=
  keywords.map .word ++ operators.map .sign ++ ['(', ')', ',', '.'].map .mark

/-- What may stand outside of quoted names in a text with so many places and with some numbers. -/
inductive Permitted (places : Nat) (numbers : List Nat) : Lexeme → Prop where
  | own {l : Lexeme} (h : l ∈ vocabulary) : Permitted places numbers l
  | place {k : Nat} (first : 1 ≤ k) (last : k ≤ places) :
    Permitted places numbers (.word ("$" ++ toString k))
  | number {n : Nat} (h : n ∈ numbers) : Permitted places numbers (.word (toString n))

/-- A statement that quotes exactly the given names, in this order, and for the rest is as permitted. -/
def Statement.Quotes (statement : Statement) (names : List String) (numbers : List Nat) : Prop :=
  ∃ lexemes, alphabet.Lexes statement.sql lexemes ∧ lexemes.filterMap Lexeme.name? = names ∧
    ∀ l ∈ lexemes, l.name? = none → Permitted statement.params.length numbers l

/-- The names among tokens. -/
def identifiers (tokens : List Token) : List String :=
  tokens.filterMap fun
    | .identifier name => some name
    | _ => none

/-- Lexemes of the vocabulary, or numbers. -/
def Token.Plain (numbers : List Nat) : Token → Prop
  | .fixed s => ∀ l ∈ (alphabet.lex s.toList).getD [],
      l ∈ vocabulary ∨ ∃ n ∈ numbers, l = .word (toString n)
  | _ => True

theorem name?_eq_none_of_vocabulary {l : Lexeme} (h : l ∈ vocabulary) : l.name? = none := by
  revert l
  decide

/-- Text that is made of the vocabulary. -/
def Worded (s : String) : Bool :=
  s ≠ "" && (alphabet.lex s.toList).any fun lexemes => lexemes.all (· ∈ vocabulary)

namespace Worded

variable {s : String}

theorem exists_lexemes (h : Worded s = true) :
    s ≠ "" ∧ ∃ lexemes, alphabet.lex s.toList = some lexemes ∧ ∀ l ∈ lexemes, l ∈ vocabulary := by
  simpa [Worded, Option.any_eq_true] using h

theorem readable (h : Worded s = true) : (Token.fixed s).Readable := by
  obtain ⟨hne, lexemes, hlex, _⟩ := exists_lexemes h
  exact ⟨hne, by rw [hlex]; rfl⟩

theorem plain (h : Worded s = true) {numbers : List Nat} : (Token.fixed s).Plain numbers := by
  obtain ⟨_, lexemes, hlex, hown⟩ := exists_lexemes h
  intro l hl
  rw [hlex, Option.getD_some] at hl
  exact .inl (hown l hl)

end Worded

/-- Text of the vocabulary whose two ends grow together with nothing. -/
structure Seam (s : String) : Prop where
  worded : Worded s = true
  starts : alphabet.startsLoose s = true
  ends : alphabet.endsLoose s = true

instance (s : String) : Decidable (Seam s) :=
  decidable_of_iff (Worded s = true ∧ alphabet.startsLoose s = true ∧ alphabet.endsLoose s = true)
    ⟨fun h => ⟨h.1, h.2.1, h.2.2⟩, fun h => ⟨h.worded, h.starts, h.ends⟩⟩

theorem Token.apart_of_startsLoose {s : String} (h : alphabet.startsLoose s = true) (token : Token) :
    token.Apart (.fixed s) := by
  intro x _ y hy
  obtain ⟨c, hc, hl⟩ := Alphabet.startsLoose_iff.mp h
  obtain rfl : c = y := Option.some.inj (hc.symm.trans hy)
  exact hl.glues_right x

theorem Token.apart_of_endsLoose {s : String} (h : alphabet.endsLoose s = true) (token : Token) :
    Token.Apart (.fixed s) token := by
  intro x hx y _
  obtain ⟨c, hc, hl⟩ := Alphabet.endsLoose_iff.mp h
  obtain rfl : c = x := Option.some.inj (hc.symm.trans hx)
  exact hl.glues_left y

/-- Tokens that are cut apart after rendering, with the given names and else only plain text. -/
structure Quotes (numbers : List Nat) (tokens : List Token) (names : List String) : Prop where
  legible : Legible tokens
  names : identifiers tokens = names
  plain : ∀ token ∈ tokens, token.Plain numbers

theorem filterMap_lexemesFrom {numbers : List Nat} (k : Nat) {tokens : List Token}
    (h : ∀ token ∈ tokens, token.Plain numbers) :
    (lexemesFrom k tokens).filterMap Lexeme.name? = identifiers tokens := by
  induction tokens generalizing k with
  | nil => rfl
  | cons token rest ih =>
    have hrest := ih (token.next k) fun t ht => h t (List.mem_cons_of_mem token ht)
    rw [lexemesFrom, List.filterMap_append, hrest]
    cases token with
    | fixed s =>
      have hnone : ((Token.fixed s).lexemes k).filterMap Lexeme.name? = [] := by
        refine List.filterMap_eq_nil_iff.mpr fun l hl => ?_
        rcases h _ List.mem_cons_self l hl with hown | ⟨n, _, rfl⟩
        · exact name?_eq_none_of_vocabulary hown
        · rfl
      rw [hnone]
      rfl
    | identifier name => rfl
    | param value => rfl

theorem permitted_of_mem_lexemesFrom {numbers : List Nat} {places k : Nat} {tokens : List Token}
    (h : ∀ token ∈ tokens, token.Plain numbers) (hfirst : 1 ≤ k)
    (hlast : k + (params tokens).length ≤ places + 1) {l : Lexeme} (hl : l ∈ lexemesFrom k tokens)
    (hname : l.name? = none) : Permitted places numbers l := by
  induction tokens generalizing k with
  | nil => cases hl
  | cons token rest ih =>
    rw [← next_add] at hlast
    have hnext : 1 ≤ token.next k := by
      cases token with
      | param value => exact Nat.le_succ_of_le hfirst
      | _ => exact hfirst
    rw [lexemesFrom, List.mem_append] at hl
    rcases hl with hl | hl
    · cases token with
      | fixed s =>
        rcases h _ List.mem_cons_self l hl with hown | ⟨n, hn, rfl⟩
        · exact .own hown
        · exact .number hn
      | identifier name =>
        rw [List.mem_singleton.mp hl] at hname
        cases hname
      | param value =>
        rw [List.mem_singleton.mp hl]
        rw [Token.next] at hlast
        exact .place hfirst (by omega)
    · exact ih (fun t ht => h t (List.mem_cons_of_mem token ht)) hnext hlast hl

namespace Quotes

variable {numbers : List Nat}

/-- The text of such tokens is what a statement should be. -/
theorem statement {tokens : List Token} {names : List String} (h : Quotes numbers tokens names) :
    (Statement.ofTokens tokens).Quotes names numbers := by
  refine ⟨lexemesFrom 1 tokens, lex_renderFrom h.legible 1, ?_, fun l hl hname => ?_⟩
  · rw [filterMap_lexemesFrom 1 h.plain, h.names]
  · refine permitted_of_mem_lexemesFrom h.plain (Nat.le_refl 1) ?_ hl hname
    exact Nat.le_of_eq (Nat.add_comm ..)

theorem nil : Quotes numbers [] [] := ⟨.nil, rfl, nofun⟩

theorem append {as bs : List Token} {ns ms : List String} (ha : Quotes numbers as ns)
    (hb : Quotes numbers bs ms) (h : ∀ a ∈ as.getLast?, ∀ b ∈ bs.head?, a.Apart b) :
    Quotes numbers (as ++ bs) (ns ++ ms) where
  legible := ha.legible.append hb.legible h
  names := by rw [← ha.names, ← hb.names]; exact List.filterMap_append
  plain := List.forall_mem_append.mpr ⟨ha.plain, hb.plain⟩

theorem name (n : String) : Quotes numbers [.identifier n] [n] where
  legible := .singleton trivial
  names := rfl
  plain := List.forall_mem_singleton.mpr trivial

theorem place (value : Param) : Quotes numbers [.param value] [] where
  legible := .singleton trivial
  names := rfl
  plain := List.forall_mem_singleton.mpr trivial

theorem text {s : String} (h : Worded s = true) : Quotes numbers [.fixed s] [] where
  legible := .singleton (Worded.readable h)
  names := rfl
  plain := List.forall_mem_singleton.mpr (Worded.plain h)

/-- Text whose end grows together with nothing, in front of tokens. -/
theorem cons {s : String} {tokens : List Token} {names : List String} (h : Worded s = true)
    (hend : alphabet.endsLoose s = true) (ht : Quotes numbers tokens names) :
    Quotes numbers (.fixed s :: tokens) names := by
  refine append (text h) ht fun a ha b _ => ?_
  obtain rfl : Token.fixed s = a := by simpa using ha
  exact Token.apart_of_endsLoose hend b

/-- Text whose start grows together with nothing, behind tokens. -/
theorem append_fixed {s : String} {as bs : List Token} {ns ms : List String}
    (ha : Quotes numbers as ns) (hb : Quotes numbers (.fixed s :: bs) ms)
    (hstart : alphabet.startsLoose s = true) : Quotes numbers (as ++ .fixed s :: bs) (ns ++ ms) := by
  refine append ha hb fun a _ b hb => ?_
  obtain rfl : Token.fixed s = b := by simpa using hb
  exact Token.apart_of_startsLoose hstart a

/-- Tokens on both sides of text that grows together with nothing. -/
theorem between {s : String} {as bs : List Token} {ns ms : List String} (ha : Quotes numbers as ns)
    (h : Seam s) (hb : Quotes numbers bs ms) : Quotes numbers (as ++ .fixed s :: bs) (ns ++ ms) :=
  append_fixed ha (cons h.worded h.ends hb) h.starts

theorem separated {sep : String} (h : Seam sep) {lists : List (List Token)}
    {names : List (List String)} (hl : List.Forall₂ (Quotes numbers) lists names) :
    Quotes numbers (Sql.separated sep lists) names.flatten := by
  induction hl with
  | nil => exact nil
  | @cons tokens ns lists names ht hl ih =>
    cases hl with
    | nil => rwa [List.flatten_singleton]
    | cons => exact between ht h ih

theorem separated_map {α : Type} {sep : String} (h : Seam sep) {f : α → List Token}
    {g : α → List String} {as : List α} (ha : ∀ a ∈ as, Quotes numbers (f a) (g a)) :
    Quotes numbers (Sql.separated sep (as.map f)) (as.flatMap g) := by
  rw [List.flatMap_def]
  refine separated h ?_
  rw [List.forall₂_map_left_iff, List.forall₂_map_right_iff, List.forall₂_same]
  exact ha

theorem bracket {tokens : List Token} {names : List String} (h : Quotes numbers tokens names) :
    Quotes numbers (.fixed "(" :: tokens ++ [.fixed ")"]) names := by
  have hclosed : Quotes numbers (tokens ++ [.fixed ")"]) (names ++ []) :=
    append_fixed h (text (by decide)) (by decide)
  rw [List.append_nil] at hclosed
  exact cons (by decide) (by decide) hclosed

/-- Places between brackets, behind a column and a word. -/
theorem members (column start : String) (h : Seam start) (values : List Param) :
    Quotes numbers (.identifier column :: .fixed start
      :: Sql.separated ", " (values.map fun value => [.param value]) ++ [.fixed ")"]) [column] := by
  have hplaces : Quotes numbers (Sql.separated ", " (values.map fun value => [.param value]))
      (values.flatMap fun _ => []) :=
    separated_map (by decide) fun value _ => place value
  have hopen := between (name column) h hplaces
  have hnone : (values.flatMap fun _ => []) = ([] : List String) :=
    List.flatMap_eq_nil_iff.mpr fun _ _ => rfl
  have hclosed : Quotes numbers (.identifier column :: .fixed start
      :: Sql.separated ", " (values.map fun value => [.param value]) ++ [.fixed ")"])
      ([column] ++ (values.flatMap fun _ => []) ++ []) := append_fixed hopen (text (by decide)) (by decide)
  rwa [hnone] at hclosed

theorem nullOr (column : String) {tokens : List Token} {names : List String}
    (h : Quotes numbers tokens names) :
    Quotes numbers (.fixed "(" :: .identifier column :: .fixed " IS NULL OR " :: tokens
      ++ [.fixed ")"]) (column :: names) :=
  bracket (between (name column) (by decide) h)

end Quotes

end Sql

end QueryCriteria
