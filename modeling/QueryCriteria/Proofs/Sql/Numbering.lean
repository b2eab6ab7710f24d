import QueryCriteria.Proofs.Sql.Names

/-!
The places of SQL conditions. Outside of quoted names a condition holds `$1`, `$2` and so on, each once
and in this order; what is bound to them are the values of the filters, in the order of the tree.
-/
namespace QueryCriteria

open Text (Lexeme)

/-- Whether there is a dollar sign in a lexeme other than a quoted name. -/
def Text.Lexeme.holdsDollar : Lexeme → Bool
  | .word s | .sign s => s.toList.contains '$'
  | .mark c => c == '$'
  | .quoted _ => false

/-- The values that a filter binds. Null and an empty list are decided without any. -/
def Filter.bound (f : Filter) : List Sql.Param :=
  match f.test with
  | .equal operand | .notEqual operand => operand.toList.map .ofScalar
  | .range _ operand => [.ofScalar operand]
  | .text .contains s => [.text ("%" ++ Pattern.escapeLike s ++ "%")]
  | .text .beginsWith s => [.text (Pattern.escapeLike s ++ "%")]
  | .text _ pattern => [.text pattern]
  | .isIn members | .notIn members => members.map .ofScalar

namespace Sql

/-- The word that stands for the value with a number. -/
def place (k : Nat) : Lexeme :=
  .word ("$" ++ toString k)

theorem holdsDollar_place (k : Nat) : (place k).holdsDollar = true := by
  simp [place, Lexeme.holdsDollar, String.toList_append]

theorem holdsDollar_of_vocabulary {l : Lexeme} (h : l ∈ vocabulary) : l.holdsDollar = false := by
  revert l
  decide

/-- Among the lexemes of tokens the places are numbered through. -/
theorem filter_lexemesFrom (k : Nat) {tokens : List Token} (h : ∀ token ∈ tokens, token.Plain []) :
    (lexemesFrom k tokens).filter Lexeme.holdsDollar =
      (List.range' k (params tokens).length).map place := by
  induction tokens generalizing k with
  | nil => rfl
  | cons token rest ih =>
    obtain ⟨htoken, hrest⟩ := List.forall_mem_cons.mp h
    -- Only a token for a value moves the number on.
    rw [lexemesFrom, List.filter_append, ih (token.next k) hrest]
    cases token with
    | fixed s =>
      have hnone : ((Token.fixed s).lexemes k).filter Lexeme.holdsDollar = [] := by
        rw [List.filter_eq_nil_iff]
        intro l hl
        rcases htoken l hl with hown | ⟨n, hn, _⟩
        · simp [holdsDollar_of_vocabulary hown]
        · cases hn
      rw [hnone]
      rfl
    | identifier name => rfl
    | param value =>
      have hplace : ((Token.param value).lexemes k).filter Lexeme.holdsDollar = [place k] :=
        List.filter_eq_self.mpr fun l hl => List.mem_singleton.mp hl ▸ holdsDollar_place k
      have hlength : (params (.param value :: rest)).length = (params rest).length + 1 := rfl
      rw [hplace, hlength, List.range'_succ]
      rfl

namespace Condition

theorem params_ofFilter (f : Filter) : params (ofFilter f).tokens = f.bound := by
  obtain ⟨field, test⟩ := f
  have hnullOr (condition : Condition) :
      params (tokens (.nullOr field.text condition)) = params condition.tokens :=
    params_bracketed (.identifier field.text :: .fixed " IS NULL OR " :: condition.tokens)
  cases test with
  | equal operand | notEqual operand => cases operand <;> rfl
  | range relation s => rfl
  | text test s =>
    cases test with
    | notLike => exact hnullOr _
    | _ => rfl
  | isIn members =>
    cases members with
    | nil => rfl
    | cons s rest => exact Reads.params_membership " IN (" _
  | notIn members =>
    cases members with
    | nil => rfl
    | cons s rest => exact (hnullOr _).trans (Reads.params_membership " NOT IN (" _)

/-- Of alternatives each one binds its own values. -/
theorem params_alternatives (conditions : List Condition) :
    params ((alternatives conditions).elim [] tokens) =
      conditions.flatMap fun condition => params condition.tokens := by
  match conditions with
  | [] => rfl
  | [condition] => exact (List.append_nil (params condition.tokens)).symm
  | first :: second :: rest =>
    change params (tokens (.disjunction (first :: second :: rest))) = _
    rw [tokens, bracketedAll_eq_map, params_separated, List.flatMap_map]
    simp only [params_bracketed]

theorem params_ofFilters (filters : Filters) :
    ((ofFilters filters).flatMap fun condition => params condition.tokens) =
      filters.flatMap Filter.bound := by
  cases filters with
  | nil => rfl
  | cons f rest =>
    rw [ofFilters, List.flatMap_singleton, tokens, tokensAll_eq_map, params_separated,
      List.flatMap_map, List.flatMap_map]
    simp only [params_ofFilter]
    intro h
    cases h

/-- A condition binds the values of its node's own filters, and then those of each branch. -/
theorem params_ofCriteria (c : Criteria) :
    params ((ofCriteria c).elim [] tokens) = c.allFilters.flatMap Filter.bound := by
  induction c using Criteria.induction with
  | node filters order limit offset branches ih =>
    have hbranches : ((ofBranches branches).flatMap fun condition => params condition.tokens) =
        branches.flatMap fun b => b.allFilters.flatMap Filter.bound := by
      rw [ofBranches_eq_map, List.flatMap_map]
      refine List.flatMap_congr fun b hb => ?_
      rw [← ih b hb]
      cases ofCriteria b <;> rfl
    rw [ofCriteria, params_alternatives, List.flatMap_append, params_ofFilters, hbranches,
      Criteria.allFilters_eq, List.flatMap_append, List.flatMap_assoc]

end Condition

/--
The text of a condition holds dollar signs, outside of quoted names, in `$1`, `$2` up to the number of
the bound values only, and these one after another. Bound are the values of all filters in the order of
the tree. A tree that selects everything has no condition, and so no places.
-/
theorem places_numbered (c : Criteria) :
    (∃ lexemes, alphabet.Lexes ((Query.ofCriteria c).whereText.getD "") lexemes ∧
      lexemes.filter Lexeme.holdsDollar =
        (List.range' 1 (Query.ofCriteria c).params.length).map place) ∧
    (Query.ofCriteria c).params = c.allFilters.flatMap Filter.bound := by
  have hquotes : Quotes [] ((Query.ofCriteria c).whereTokens.getD []) _ := Quotes.whereTokens c
  constructor
  · refine ⟨_, ?_, filter_lexemesFrom 1 hquotes.plain⟩
    have hlex := lex_renderFrom hquotes.legible 1
    have htext : (Query.ofCriteria c).whereText.getD (render []) =
        render ((Query.ofCriteria c).whereTokens.getD []) := Option.getD_map render [] _
    rw [← render, ← htext] at hlex
    exact hlex
  · have hparams := Condition.params_ofCriteria c
    rw [Query.params, Query.whereTokens, Query.ofCriteria, ← hparams]
    cases Condition.ofCriteria c <;> rfl

end Sql

end QueryCriteria
