import QueryCriteria.Proofs.Dynamo.Lexemes

/-!
The placeholders in the texts of filter expressions: those of the conditions from left to right, and of
each condition that of its attribute and those of its values.
-/
namespace QueryCriteria.Dynamo

open Text (Lexeme Formula)
open Text.Formula (joined)

/-- The placeholder that a lexeme is: a word with one of the two signs of placeholders. -/
def placeholder? : Lexeme → Option String
  | .word s => if s.toList.any fun c => c == '#' || c == ':' then some s else none
  | _ => none

/-- A text with these placeholders, in this order. -/
def Mentions (text : String) (places : List String) : Prop :=
  ∃ ls, alphabet.Lexes text ls ∧ ls.filterMap placeholder? = places

theorem placeholder?_name (n : Nat) :
    placeholder? (.word (namePlaceholder n)) = some (namePlaceholder n) := by
  simp [placeholder?, namePlaceholder, String.toList_append]

theorem placeholder?_of_mem_values {n : Nat} {clause : Clause} {entry : String × Json}
    (h : entry ∈ clause.values n) : placeholder? (.word entry.1) = some entry.1 := by
  cases clause with
  | isIn members | notIn members =>
    obtain ⟨member, _, rfl⟩ := List.mem_map.mp h
    simp [placeholder?, memberPlaceholder, valuePlaceholder, String.toList_append]
  | _ =>
    obtain rfl := List.mem_singleton.mp h
    simp [placeholder?, valuePlaceholder, String.toList_append]

private theorem filterMap_joined {l : Lexeme} (hl : placeholder? l = none) (pieces : List (List Lexeme)) :
    (joined l pieces).filterMap placeholder? = pieces.flatMap (List.filterMap placeholder?) := by
  induction pieces with
  | nil => rfl
  | cons piece rest ih =>
    cases rest with
    | nil => exact (List.append_nil _).symm
    | cons following rest =>
      have hj : joined l (piece :: following :: rest) = piece ++ l :: joined l (following :: rest) := rfl
      rw [hj, List.filterMap_append, List.filterMap_cons_none hl, ih]
      rfl

/-- The placeholders in the text of a clause with its number. -/
def Clause.mentions (clause : Clause) (n : Nat) : List String :=
  match clause with
  | .isNull | .isNotNull => [namePlaceholder n, namePlaceholder n, valuePlaceholder n]
  | clause => namePlaceholder n :: (clause.values n).map (·.1)

theorem mentions_clause (clause : Clause) (n : Nat) : Mentions (clause.text n) (clause.mentions n) := by
  refine ⟨clause.lexemes n, lexes_clause clause n, ?_⟩
  have hname := placeholder?_name n
  have hplaces : (clause.placeLexemes n).filterMap placeholder? = (clause.values n).map (·.1) := by
    have hwords : ∀ entry ∈ clause.values n,
        [Lexeme.word entry.1].filterMap placeholder? = [entry.1] := by
      intro entry he
      rw [List.filterMap_cons_some (placeholder?_of_mem_values he)]
      rfl
    rw [Clause.placeLexemes, filterMap_joined rfl, List.flatMap_map, List.flatMap_map,
      List.map_eq_flatMap]
    exact List.flatMap_congr hwords
  have hmark (c : Char) : placeholder? (.mark c) = none := rfl
  have hsign (s : String) : placeholder? (.sign s) = none := rfl
  have hwords : ∀ s ∈ ["attribute_not_exists", "attribute_exists", "attribute_type", "contains",
      "begins_with", "OR", "AND", "NOT", "IN"], placeholder? (.word s) = none := by decide
  cases clause with
  | compare comparison operand =>
    rw [Clause.lexemes, List.filterMap_append, hplaces]
    simp [Clause.mentions, hname, hsign]
  | _ =>
    rw [Clause.lexemes, List.filterMap_append, List.filterMap_append, hplaces]
    simp [Clause.mentions, Clause.values, hname, hmark, hwords]

theorem mem_mentions_iff {clause : Clause} {n : Nat} {place : String} :
    place ∈ clause.mentions n ↔ place = namePlaceholder n ∨ place ∈ (clause.values n).map (·.1) := by
  cases clause <;> simp [Clause.mentions, Clause.values]

namespace Mentions

/-- Texts with a separator between each two. -/
theorem join {sep : String} {l : Lexeme} (hsep : alphabet.Lexes sep [l])
    (hstart : alphabet.startsLoose sep = true) (hend : alphabet.endsLoose sep = true)
    (hl : placeholder? l = none) {texts : List String} {places : List (List String)}
    (h : List.Forall₂ Mentions texts places) : Mentions (Text.join sep texts) places.flatten := by
  have hpieces : ∃ pieces, List.Forall₂ alphabet.Lexes texts pieces ∧
      pieces.map (List.filterMap placeholder?) = places := by
    induction h with
    | nil => exact ⟨[], .nil, rfl⟩
    | cons hfirst _ ih =>
      obtain ⟨ls, hls, rfl⟩ := hfirst
      obtain ⟨pieces, hlex, rfl⟩ := ih
      exact ⟨ls :: pieces, .cons hls hlex, rfl⟩
  obtain ⟨pieces, hlex, rfl⟩ := hpieces
  refine ⟨_, Formula.lexes_join hsep hstart hend hlex, ?_⟩
  rw [filterMap_joined hl, List.flatMap_def]

theorem bracket {text : String} {places : List String} (h : Mentions text places) :
    Mentions ("(" ++ text ++ ")") places := by
  obtain ⟨ls, hls, hplaces⟩ := h
  have hopen : alphabet.Lexes "(" [.mark '('] := rfl
  have hclose : alphabet.Lexes ")" [.mark ')'] := rfl
  refine ⟨_, (hopen.append_end hls rfl).append hclose rfl, ?_⟩
  rw [List.filterMap_append, List.filterMap_append, hplaces]
  exact List.append_nil places

end Mentions

namespace Expression

/-- What holds of a disjunction if it holds of its parts holds of every expression. -/
theorem induction {P : Expression → Prop} (conjunction : ∀ conditions, P (.conjunction conditions))
    (disjunction : ∀ es, (∀ e ∈ es, P e) → P (.disjunction es)) (e : Expression) : P e :=
  @Expression.rec P (fun es => ∀ e ∈ es, P e) conjunction disjunction nofun
    (fun _ _ he hes => List.forall_mem_cons.mpr ⟨he, hes⟩) e

/-- The placeholders of conditions that are numbered from `n` on. -/
def placesFrom (n : Nat) (conditions : List Condition) : List String :=
  (conditions.zipIdx n).flatMap fun numbered => numbered.1.clause.mentions numbered.2

theorem placesFrom_append (n : Nat) (as bs : List Condition) :
    placesFrom n (as ++ bs) = placesFrom n as ++ placesFrom (n + as.length) bs := by
  rw [placesFrom, List.zipIdx_append, List.flatMap_append, placesFrom, placesFrom, Nat.add_comm]

/-- An expression mentions the placeholders of its conditions, wherever their numbers begin. -/
theorem mentions_text (e : Expression) (n : Nat) : Mentions (e.text n) (placesFrom n e.conditions) := by
  induction e using Expression.induction generalizing n with
  | conjunction conditions =>
    have hall : List.Forall₂ Mentions
        ((conditions.zipIdx n).map fun numbered => numbered.1.clause.text numbered.2)
        ((conditions.zipIdx n).map fun numbered => numbered.1.clause.mentions numbered.2) := by
      rw [List.forall₂_map_left_iff, List.forall₂_map_right_iff, List.forall₂_same]
      exact fun numbered _ => mentions_clause numbered.1.clause numbered.2
    have hsep : alphabet.Lexes " AND " [.word "AND"] := rfl
    rw [text, Expression.conditions, placesFrom, List.flatMap_def]
    exact Mentions.join hsep rfl rfl rfl hall
  | disjunction es ih =>
    have hall : ∃ places, List.Forall₂ Mentions (textAll n es) places ∧
        places.flatten = placesFrom n (conditionsAll es) := by
      -- The numbers go on in the second part where those of the first part end.
      induction es generalizing n with
      | nil => exact ⟨[], .nil, rfl⟩
      | cons e rest ihrest =>
        obtain ⟨hfirst, hrest⟩ := List.forall_mem_cons.mp ih
        obtain ⟨places, hplaces, hflat⟩ := ihrest hrest (n + e.conditions.length)
        refine ⟨_, .cons (hfirst n).bracket hplaces, ?_⟩
        rw [List.flatten_cons, hflat, conditionsAll, placesFrom_append]
    obtain ⟨places, hplaces, hflat⟩ := hall
    have hsep : alphabet.Lexes " OR " [.word "OR"] := rfl
    rw [text, conditions, ← hflat]
    exact Mentions.join hsep rfl rfl rfl hplaces

end Expression

end QueryCriteria.Dynamo
