import QueryCriteria.Proofs.Places
import QueryCriteria.Proofs.Sql.Predicate

/-!
Tokens that are read as SQL conditions with a known truth on a row. Readings compose as conditions do,
and the places of a part are those that its values occupy among all values.
-/
namespace QueryCriteria.Sql

open Text (Lexeme Formula)
open Text.Formula (Denotes joined)

/-- Formulas of predicates, which hold on a row if they are true there and not merely unknown. -/
def semantics (engine : Engine) (ps : List Param) (row : String → Json) :
    Formula.Semantics Predicate where
  atom := Predicate.read
  Holds f := truth engine ps row f = .holds
  holds_and _ _ := Truth.and_eq_holds
  holds_or _ _ := Truth.or_eq_holds

variable {engine : Engine} {row : String → Json}

/--
Tokens that stand, at a level of the grammar, for a condition that is true on a row exactly under
`p`. They may be rendered from any place on that their values occupy.
-/
structure Reads (engine : Engine) (row : String → Json) (level : Formula.Level)
    (tokens : List Token) (p : Prop) : Prop where
  legible : Legible tokens
  denotes : ∀ k ps, params tokens <+: ps.drop k →
    Denotes (semantics engine ps row) level (lexemesFrom (k + 1) tokens) p

theorem place?_number (k : Nat) : Predicate.place? ("$" ++ toString (k + 1)) = some k := by
  have hc : ("$" ++ toString (k + 1)).toList = '$' :: Nat.toDigits 10 (k + 1) := by
    rw [String.toList_append, Decimal.toList_toString]
    rfl
  simp only [Predicate.place?, hc, Decimal.natOfDigits?_toDigits]

theorem params_separated (sep : String) (lists : List (List Token)) :
    params (separated sep lists) = lists.flatMap params := by
  induction lists with
  | nil => rfl
  | cons tokens rest ih =>
    cases rest with
    | nil => simp [separated]
    | cons following rest =>
      have hs : separated sep (tokens :: following :: rest) =
          tokens ++ .fixed sep :: separated sep (following :: rest) := rfl
      rw [hs, params_append, List.flatMap_cons, ← ih]
      rfl

theorem params_bracketed (tokens : List Token) :
    params (.fixed "(" :: tokens ++ [.fixed ")"]) = params tokens := by
  rw [List.cons_append, ← List.singleton_append, params_append, params_append]
  exact List.append_nil (params tokens)

private theorem loose_open : (Token.fixed "(").Loose :=
  Token.loose_fixed (by decide) rfl rfl (by decide)

private theorem loose_close : (Token.fixed ")").Loose :=
  Token.loose_fixed (by decide) rfl rfl (by decide)

namespace Reads

variable {level : Formula.Level} {tokens : List Token} {p q : Prop}

theorem congr (h : Reads engine row level tokens p) (hpq : p ↔ q) :
    Reads engine row level tokens q :=
  ⟨h.legible, fun k ps hp => (h.denotes k ps hp).congr hpq⟩

theorem negation (h : Reads engine row .primary tokens p) : Reads engine row .negation tokens p :=
  ⟨h.legible, fun k ps hp => (h.denotes k ps hp).negation⟩

theorem conjunction (h : Reads engine row .negation tokens p) :
    Reads engine row .conjunction tokens p :=
  ⟨h.legible, fun k ps hp => (h.denotes k ps hp).conjunction⟩

theorem disjunction (h : Reads engine row .conjunction tokens p) :
    Reads engine row .disjunction tokens p :=
  ⟨h.legible, fun k ps hp => (h.denotes k ps hp).disjunction⟩

theorem weaken (h : Reads engine row .primary tokens p) : Reads engine row .disjunction tokens p :=
  h.negation.conjunction.disjunction

theorem bracket (h : Reads engine row .disjunction tokens p) :
    Reads engine row .primary (.fixed "(" :: tokens ++ [.fixed ")"]) p where
  legible := .between (.loose_cons loose_open h.legible) loose_close .nil
  denotes k ps hp := by
    rw [params_bracketed] at hp
    have hl : lexemesFrom (k + 1) (.fixed "(" :: tokens ++ [.fixed ")"]) =
        .mark '(' :: lexemesFrom (k + 1) tokens ++ [.mark ')'] := by
      rw [lexemesFrom_append]
      rfl
    rw [hl]
    exact (h.denotes k ps hp).bracket

/-- Conditions that stand one after another are read each from its own place on. -/
theorem all {β : Type} {holds : β → Prop} {lists : List (List Token)} {bs : List β}
    (h : List.Forall₂ (fun tokens b => Reads engine row level tokens (holds b)) lists bs) {k : Nat}
    {ps : List Param} (hp : lists.flatMap params <+: ps.drop k) :
    List.Forall₂ (fun piece b => Denotes (semantics engine ps row) level piece (holds b))
      (lexemesAll (k + 1) lists) bs := by
  induction h generalizing k with
  | nil => exact .nil
  | @cons tokens b lists bs hb _ ih =>
    obtain ⟨hfirst, hrest⟩ := places_append hp
    have hk : k + 1 + (params tokens).length = k + (params tokens).length + 1 := by omega
    rw [lexemesAll, hk]
    exact .cons (hb.denotes k ps hfirst) (ih hrest)

private theorem lexemesAll_ne_nil {k : Nat} {lists : List (List Token)} (h : lists ≠ []) :
    lexemesAll k lists ≠ [] := by
  cases lists with
  | nil => exact absurd rfl h
  | cons tokens rest => exact List.cons_ne_nil _ _

private theorem legible_separated {β : Type} {holds : β → Prop} {sep : String}
    (hs : (Token.fixed sep).Loose) {lists : List (List Token)} {bs : List β}
    (h : List.Forall₂ (fun tokens b => Reads engine row level tokens (holds b)) lists bs) :
    Legible (separated sep lists) := by
  refine .separated hs ?_
  induction h with
  | nil => nofun
  | cons hb _ ih => exact List.forall_mem_cons.mpr ⟨hb.legible, ih⟩

theorem conjoin {β : Type} {holds : β → Prop} {lists : List (List Token)} {bs : List β}
    (h : List.Forall₂ (fun tokens b => Reads engine row .negation tokens (holds b)) lists bs)
    (hne : lists ≠ []) :
    Reads engine row .conjunction (separated " AND " lists) (∀ b ∈ bs, holds b) where
  legible := legible_separated (Token.loose_fixed (by decide) rfl rfl (by decide)) h
  denotes k ps hp := by
    rw [params_separated] at hp
    rw [lexemesFrom_separated (l := .word "AND") rfl]
    exact Denotes.conjoin (all h hp) (lexemesAll_ne_nil hne)

theorem disjoin {β : Type} {holds : β → Prop} {lists : List (List Token)} {bs : List β}
    (h : List.Forall₂ (fun tokens b => Reads engine row .conjunction tokens (holds b)) lists bs)
    (hne : lists ≠ []) :
    Reads engine row .disjunction (separated " OR " lists) (∃ b ∈ bs, holds b) where
  legible := legible_separated (Token.loose_fixed (by decide) rfl rfl (by decide)) h
  denotes k ps hp := by
    rw [params_separated] at hp
    rw [lexemesFrom_separated (l := .word "OR") rfl]
    exact Denotes.disjoin (all h hp) (lexemesAll_ne_nil hne)

/-- A predicate of a column, whose name stands in front of the test. -/
theorem ofColumn {column : String} {test : List Token} (hl : Legible (.identifier column :: test))
    (h : ∀ k ps, params test <+: ps.drop k → ∃ a,
      (∀ rest, Predicate.readTest column (lexemesFrom (k + 1) test ++ rest) = some (a, rest)) ∧
        (a.truth engine ps row = .holds ↔ p)) :
    Reads engine row .primary (.identifier column :: test) p where
  legible := hl
  denotes k ps hp := by
    obtain ⟨a, ha, hap⟩ := h k ps hp
    exact ⟨.atom a, .atom nofun nofun ha, hap⟩

theorem constant (b : Bool) :
    Reads engine row .primary [.fixed (if b then "TRUE" else "FALSE")] (b = true) where
  legible := .singleton (by cases b <;> exact ⟨by decide, by decide⟩)
  denotes k ps _ := by
    refine ⟨.atom (.constant b), ?_, Truth.ofBool_eq_holds⟩
    cases b
    · exact .atom nofun (by decide) fun _ => rfl
    · exact .atom nofun (by decide) fun _ => rfl

theorem nullity (column : String) (wanted : Bool) :
    Reads engine row .primary
      [.identifier column, .fixed (if wanted then " IS NULL" else " IS NOT NULL")]
      ((row column).isNull = wanted) := by
  refine ofColumn (.cons trivial ?_ (.singleton ?_)) ?_
  · cases wanted <;> exact Token.apart_of_chars rfl rfl rfl
  · cases wanted <;> exact ⟨by decide, by decide⟩
  · intro k ps _
    refine ⟨.nullity column wanted, ?_, by simp [Predicate.truth]⟩
    cases wanted <;> exact fun _ => rfl

private theorem loose_comparison (comparison : Comparison) :
    (Token.fixed (" " ++ comparison.text ++ " ")).Loose := by
  cases comparison with
  | range relation => cases relation <;> exact Token.loose_fixed (by decide) rfl rfl (by decide)
  | _ => exact Token.loose_fixed (by decide) rfl rfl (by decide)

private theorem readTest_comparison (column : String) (comparison : Comparison) (k : Nat)
    (rest : List Lexeme) :
    Predicate.readTest column
      ((Token.fixed (" " ++ comparison.text ++ " ")).lexemes k ++ rest) =
        Predicate.readTest.operand column comparison rest := by
  cases comparison with
  | range relation => cases relation <;> rfl
  | _ => rfl

theorem compare (column : String) (comparison : Comparison) (operand : Param) :
    Reads engine row .primary
      [.identifier column, .fixed (" " ++ comparison.text ++ " "), .param operand]
      (engine comparison (row column) operand = .holds) := by
  refine ofColumn (.between (l := [.identifier column]) (.singleton trivial)
    (loose_comparison comparison) (.singleton trivial)) ?_
  intro k ps hp
  have hk : ps[k]? = some operand := place_head hp
  refine ⟨.compare column comparison k, fun rest => ?_, ?_⟩
  · have hl : lexemesFrom (k + 1) [.fixed (" " ++ comparison.text ++ " "), .param operand] =
        (Token.fixed (" " ++ comparison.text ++ " ")).lexemes (k + 1) ++
          [.word ("$" ++ toString (k + 1))] := rfl
    rw [hl, List.append_assoc, readTest_comparison]
    simp only [List.singleton_append, Predicate.readTest.operand, place?_number, Option.map_some]
  · simp [Predicate.truth, Predicate.truth.compareAt, hk]

private theorem lexemesAll_params (k : Nat) (members : List Param) :
    lexemesAll k (members.map fun member => [.param member]) =
      (List.range' k members.length).map fun n => [.word ("$" ++ toString n)] := by
  induction members generalizing k with
  | nil => rfl
  | cons member rest ih =>
    rw [List.map_cons, lexemesAll, List.length_cons, List.range'_succ, List.map_cons]
    exact congrArg _ (ih (k + 1))

private theorem numbers_places (k n : Nat) :
    List.Forall₂ (fun s place => Predicate.place? s = some place)
      ((List.range' (k + 1) n).map fun i => "$" ++ toString i) (List.range' k n) := by
  rw [List.forall₂_map_left_iff]
  induction n generalizing k with
  | zero => exact .nil
  | succ n ih =>
    rw [List.range'_succ, List.range'_succ]
    exact .cons (place?_number k) (ih (k + 1))

private theorem truths_of_places {members ps : List Param} {k : Nat} (h : members <+: ps.drop k)
    (column : String) :
    (List.range' k members.length).map (Predicate.truth.compareAt engine ps row column .equal) =
      members.map (engine .equal (row column)) := by
  induction members generalizing k with
  | nil => rfl
  | cons member rest ih =>
    have hrest : rest <+: ps.drop (k + 1) := places_tail h
    rw [List.length_cons, List.range'_succ, List.map_cons, List.map_cons, ih hrest,
      Predicate.truth.compareAt, place_head h]

private theorem loose_membership (wanted : Bool) :
    (Token.fixed (" " ++ (if wanted then "IN" else "NOT IN") ++ " (")).Loose := by
  cases wanted
  · exact Token.loose_fixed (by decide) rfl rfl (by decide)
  · exact Token.loose_fixed (by decide) rfl rfl (by decide)

private theorem readTest_membership (column : String) (wanted : Bool) (k : Nat)
    (rest : List Lexeme) :
    Predicate.readTest column
      ((Token.fixed (" " ++ (if wanted then "IN" else "NOT IN") ++ " (")).lexemes k ++ rest) =
        Predicate.readTest.members column wanted rest := by
  cases wanted
  · rfl
  · rfl

theorem params_membership (start : String) (members : List Param) :
    params (.fixed start :: separated ", " (members.map fun member => [.param member])
      ++ [.fixed ")"]) = members := by
  have hmembers : params (separated ", " (members.map fun member => [Token.param member])) =
      members := by
    rw [params_separated, List.flatMap_map]
    exact List.flatMap_singleton' members
  rw [params_append, ← List.singleton_append, params_append, hmembers]
  exact List.append_nil members

theorem membership (column : String) (wanted : Bool) {members : List Param} (hne : members ≠ []) :
    Reads engine row .primary
      (.identifier column :: .fixed (" " ++ (if wanted then "IN" else "NOT IN") ++ " (")
        :: separated ", " (members.map fun member => [.param member]) ++ [.fixed ")"])
      ((if wanted then Truth.any (members.map (engine .equal (row column)))
        else (Truth.any (members.map (engine .equal (row column)))).not) = .holds) := by
  have hsingle : ∀ tokens ∈ members.map fun member => [Token.param member], Legible tokens := by
    intro tokens ht
    obtain ⟨member, _, rfl⟩ := List.mem_map.mp ht
    exact .singleton trivial
  refine ofColumn (.between (.between (l := [.identifier column]) (.singleton trivial)
    (loose_membership wanted) (.separated (Token.loose_fixed (by decide) rfl rfl (by decide)) hsingle))
    loose_close .nil) ?_
  intro k ps hp
  have hps : members <+: ps.drop k := params_membership _ members ▸ hp
  have hwords : ((List.range' (k + 1) members.length).map fun i => "$" ++ toString i) ≠ [] := by
    simpa using hne
  refine ⟨.membership column wanted (List.range' k members.length), fun rest => ?_, ?_⟩
  · have hl : lexemesFrom (k + 1) (.fixed (" " ++ (if wanted then "IN" else "NOT IN") ++ " (")
        :: separated ", " (members.map fun member => [.param member]) ++ [.fixed ")"]) =
        (Token.fixed (" " ++ (if wanted then "IN" else "NOT IN") ++ " (")).lexemes (k + 1) ++
          joined (.mark ',') (lexemesAll (k + 1) (members.map fun member => [.param member])) ++
            [.mark ')'] := by
      rw [lexemesFrom_append, lexemesFrom, lexemesFrom_separated (l := .mark ',') rfl]
      rfl
    change Predicate.readTest column (lexemesFrom (k + 1) (.fixed _ :: _ ++ [.fixed ")"]) ++ rest) = _
    have hread := Formula.readList_joined (numbers_places k members.length) hwords rest
    rw [List.map_map] at hread
    rw [hl, List.append_assoc, List.append_assoc, readTest_membership, lexemesAll_params,
      List.singleton_append, Predicate.readTest.members]
    exact congrArg (Option.map _) hread
  · simp only [Predicate.truth, truths_of_places hps]

/-- A test that NULL passes as well. -/
theorem nullOr (column : String) (h : Reads engine row .primary tokens p) :
    Reads engine row .primary
      (.fixed "(" :: .identifier column :: .fixed " IS NULL OR " :: tokens ++ [.fixed ")"])
      ((row column).isNull = true ∨ p) := by
  refine bracket ⟨.between (l := [.identifier column]) (.singleton trivial)
    (Token.loose_fixed (by decide) rfl rfl (by decide)) h.legible, fun k ps hp => ?_⟩
  have hread : Reads engine row .primary _ _ := nullity column true
  have hnull := hread.denotes k ps List.nil_prefix
  exact hnull.negation.conjunction.or (h.weaken.denotes k ps hp)

end Reads

end QueryCriteria.Sql
