import Mathlib.Data.List.Forall2
import QueryCriteria.Proofs.Text.Lexeme

/-!
Boolean formulas in the notation of query languages: NOT binds tighter than AND, and AND tighter
than OR. The reader finds every formula that the grammar derives.
-/
namespace QueryCriteria.Text

inductive Formula (α : Type) where
  | atom (a : α)
  | not (f : Formula α)
  | and (f g : Formula α)
  | or (f g : Formula α)

/-- Reads a part of what the lexemes begin with, and leaves the others. -/
abbrev LexemeReader (α : Type) := List Lexeme → Option (α × List Lexeme)

namespace Formula

variable {α : Type} (atom : LexemeReader α)

mutual

/-- Conjunctions with OR between them. -/
def disjunction : Nat → LexemeReader (Formula α)
  | 0, _ => none
  | fuel + 1, ls => do
    let (f, rest) ← conjunction fuel ls
    if rest.head? = some (.word "OR") then
      let (g, rest) ← disjunction fuel rest.tail
      return (.or f g, rest)
    else return (f, rest)

/-- Negations with AND between them. -/
def conjunction : Nat → LexemeReader (Formula α)
  | 0, _ => none
  | fuel + 1, ls => do
    let (f, rest) ← negation fuel ls
    if rest.head? = some (.word "AND") then
      let (g, rest) ← conjunction fuel rest.tail
      return (.and f g, rest)
    else return (f, rest)

def negation : Nat → LexemeReader (Formula α)
  | 0, _ => none
  | fuel + 1, ls =>
    if ls.head? = some (.word "NOT") then do
      let (f, rest) ← negation fuel ls.tail
      return (.not f, rest)
    else primary fuel ls

/-- A formula between brackets, or an atom. -/
def primary : Nat → LexemeReader (Formula α)
  | 0, _ => none
  | fuel + 1, ls =>
    if ls.head? = some (.mark '(') then do
      let (f, rest) ← disjunction fuel ls.tail
      if rest.head? = some (.mark ')') then return (f, rest.tail) else none
    else (atom ls).map fun read => (.atom read.1, read.2)

end

/-- The formula that lexemes spell. Each lexeme is met by at most four of the readers above. -/
def read (ls : List Lexeme) : Option (Formula α) :=
  match disjunction atom (4 * ls.length) ls with
  | some (f, []) => some f
  | _ => none

/-- How tightly a formula is held together where it stands. -/
inductive Level where
  | disjunction
  | conjunction
  | negation
  | primary

/-- The grammar of formulas. -/
inductive Spells : Level → List Lexeme → Formula α → Prop where
  | atom {l : Lexeme} {ls : List Lexeme} {a : α} (hb : l ≠ .mark '(') (hn : l ≠ .word "NOT")
      (h : ∀ rest, atom (l :: ls ++ rest) = some (a, rest)) : Spells .primary (l :: ls) (.atom a)
  | bracket {ls : List Lexeme} {f : Formula α} (h : Spells .disjunction ls f) :
      Spells .primary (.mark '(' :: ls ++ [.mark ')']) f
  | not {ls : List Lexeme} {f : Formula α} (h : Spells .negation ls f) :
      Spells .negation (.word "NOT" :: ls) (.not f)
  | primary {ls : List Lexeme} {f : Formula α} (h : Spells .primary ls f) : Spells .negation ls f
  | and {ls ms : List Lexeme} {f g : Formula α} (hf : Spells .negation ls f)
      (hg : Spells .conjunction ms g) : Spells .conjunction (ls ++ .word "AND" :: ms) (.and f g)
  | negation {ls : List Lexeme} {f : Formula α} (h : Spells .negation ls f) :
      Spells .conjunction ls f
  | or {ls ms : List Lexeme} {f g : Formula α} (hf : Spells .conjunction ls f)
      (hg : Spells .disjunction ms g) : Spells .disjunction (ls ++ .word "OR" :: ms) (.or f g)
  | conjunction {ls : List Lexeme} {f : Formula α} (h : Spells .conjunction ls f) :
      Spells .disjunction ls f

/-- The reader of a level. -/
def Level.reader : Level → Nat → LexemeReader (Formula α)
  | .disjunction => Formula.disjunction atom
  | .conjunction => Formula.conjunction atom
  | .negation => Formula.negation atom
  | .primary => Formula.primary atom

/-- Where the reader of a level stops because nothing more belongs to the formula. -/
def Level.Stops : Level → List Lexeme → Prop
  | .disjunction, rest => rest.head? ≠ some (.word "AND") ∧ rest.head? ≠ some (.word "OR")
  | .conjunction, rest => rest.head? ≠ some (.word "AND")
  | .negation, _ | .primary, _ => True

/-- The readers that have been passed when a level is reached. -/
def Level.passed : Level → Nat
  | .disjunction => 0
  | .conjunction => 1
  | .negation => 2
  | .primary => 3

variable {atom}

private theorem Spells.head {level : Level} {ls : List Lexeme} {f : Formula α}
    (h : Spells atom level ls f) : ∃ l rest, ls = l :: rest := by
  induction h with
  | @atom l ls a _ _ _ => exact ⟨l, ls, rfl⟩
  | @bracket ls f _ _ => exact ⟨_, ls ++ [.mark ')'], rfl⟩
  | @not ls f _ _ => exact ⟨_, ls, rfl⟩
  | primary _ ih => exact ih
  | and _ _ ih _ => obtain ⟨l, rest, rfl⟩ := ih; exact ⟨l, _, rfl⟩
  | negation _ ih => exact ih
  | or _ _ ih _ => obtain ⟨l, rest, rfl⟩ := ih; exact ⟨l, _, rfl⟩
  | conjunction _ ih => exact ih

private theorem head_append {l : Lexeme} {ls rest : List Lexeme} :
    (l :: ls ++ rest).head? = some l := rfl

/-- The reader of a level finds what the grammar derives there, if its fuel lasts for the lexemes. -/
theorem Spells.reader {level : Level} {ls : List Lexeme} {f : Formula α}
    (h : Spells atom level ls f) {fuel : Nat} {rest : List Lexeme}
    (hfuel : 4 * ls.length ≤ fuel + level.passed) (hrest : level.Stops rest) :
    level.reader atom fuel (ls ++ rest) = some (f, rest) := by
  induction h generalizing fuel rest with
  | @atom l ls a hb hn ha =>
    obtain ⟨fuel, rfl⟩ : ∃ n, fuel = n + 1 :=
      Nat.exists_eq_succ_of_ne_zero (by simp [Level.passed] at hfuel; omega)
    have hl : some l ≠ some (.mark '(') := fun h => hb (Option.some.inj h)
    simp only [Level.reader, Formula.primary, head_append, if_neg hl, ha, Option.map_some]
  | @bracket ls f _ ih =>
    simp only [Level.passed, List.length_append, List.length_cons, List.length_nil] at hfuel
    obtain ⟨fuel, rfl⟩ : ∃ n, fuel = n + 1 := Nat.exists_eq_succ_of_ne_zero (by omega)
    have hin : Formula.disjunction atom fuel (ls ++ .mark ')' :: rest) = some (f, .mark ')' :: rest) :=
      ih (by simp only [Level.passed]; omega) (by simp [Level.Stops])
    simp [Level.reader, Formula.primary, hin]
  | @not ls f _ ih =>
    simp only [Level.passed, List.length_cons] at hfuel
    obtain ⟨fuel, rfl⟩ : ∃ n, fuel = n + 1 := Nat.exists_eq_succ_of_ne_zero (by omega)
    have hin : Formula.negation atom fuel (ls ++ rest) = some (f, rest) :=
      ih (by simp only [Level.passed]; omega) trivial
    simp [Level.reader, Formula.negation, hin]
  | @primary ls f h ih =>
    obtain ⟨l, tail, rfl⟩ := h.head
    simp only [Level.passed, List.length_cons] at hfuel
    obtain ⟨fuel, rfl⟩ : ∃ n, fuel = n + 1 := Nat.exists_eq_succ_of_ne_zero (by omega)
    have hin : Formula.primary atom fuel (l :: tail ++ rest) = some (f, rest) :=
      ih (by simp only [Level.passed, List.length_cons]; omega) trivial
    have hl : some l ≠ some (.word "NOT") := by
      cases h with
      | atom _ hn _ => exact fun h => hn (Option.some.inj h)
      | bracket _ => simp
    simp only [Level.reader, Formula.negation, head_append, if_neg hl, hin]
  | @and ls ms f g _ _ ihf ihg =>
    simp only [Level.passed, List.length_append, List.length_cons] at hfuel
    obtain ⟨fuel, rfl⟩ : ∃ n, fuel = n + 1 := Nat.exists_eq_succ_of_ne_zero (by omega)
    have hf : Formula.negation atom fuel (ls ++ .word "AND" :: (ms ++ rest)) =
        some (f, .word "AND" :: (ms ++ rest)) := ihf (by simp only [Level.passed]; omega) trivial
    have hg : Formula.conjunction atom fuel (ms ++ rest) = some (g, rest) :=
      ihg (by simp only [Level.passed]; omega) hrest
    simp [Level.reader, Formula.conjunction, hf, hg]
  | @negation ls f h ih =>
    obtain ⟨l, tail, rfl⟩ := h.head
    simp only [Level.passed, List.length_cons] at hfuel
    obtain ⟨fuel, rfl⟩ : ∃ n, fuel = n + 1 := Nat.exists_eq_succ_of_ne_zero (by omega)
    have hin : Formula.negation atom fuel (l :: tail ++ rest) = some (f, rest) :=
      ih (by simp only [Level.passed, List.length_cons]; omega) trivial
    simp only [Level.reader, Formula.conjunction, hin, Option.bind_eq_bind, Option.bind_some]
    rw [if_neg hrest]
    rfl
  | @or ls ms f g _ _ ihf ihg =>
    simp only [Level.passed, List.length_append, List.length_cons] at hfuel
    obtain ⟨fuel, rfl⟩ : ∃ n, fuel = n + 1 := Nat.exists_eq_succ_of_ne_zero (by omega)
    have hf : Formula.conjunction atom fuel (ls ++ .word "OR" :: (ms ++ rest)) =
        some (f, .word "OR" :: (ms ++ rest)) :=
      ihf (by simp only [Level.passed]; omega) (by simp [Level.Stops])
    have hg : Formula.disjunction atom fuel (ms ++ rest) = some (g, rest) :=
      ihg (by simp only [Level.passed]; omega) hrest
    simp [Level.reader, Formula.disjunction, hf, hg]
  | @conjunction ls f h ih =>
    obtain ⟨l, tail, rfl⟩ := h.head
    simp only [Level.passed, List.length_cons] at hfuel
    obtain ⟨fuel, rfl⟩ : ∃ n, fuel = n + 1 := Nat.exists_eq_succ_of_ne_zero (by omega)
    have hin : Formula.conjunction atom fuel (l :: tail ++ rest) = some (f, rest) :=
      ih (by simp only [Level.passed, List.length_cons]; omega) hrest.1
    simp only [Level.reader, Formula.disjunction, hin, Option.bind_eq_bind, Option.bind_some]
    rw [if_neg hrest.2]
    rfl

/-- What the grammar derives from lexemes is what is read, so the grammar is unambiguous. -/
theorem Spells.read {ls : List Lexeme} {f : Formula α} (h : Spells atom .disjunction ls f) :
    Formula.read atom ls = some f := by
  have hr : Formula.disjunction atom (4 * ls.length) (ls ++ []) = some (f, []) :=
    h.reader (Nat.le_refl _) ⟨nofun, nofun⟩
  rw [List.append_nil] at hr
  rw [Formula.read, hr]

/-- How atoms are read, and which formulas hold. -/
structure Semantics (α : Type) where
  atom : LexemeReader α
  Holds : Formula α → Prop
  holds_and : ∀ f g, Holds (.and f g) ↔ Holds f ∧ Holds g
  holds_or : ∀ f g, Holds (.or f g) ↔ Holds f ∨ Holds g

/-- The lexemes spell a formula that holds under exactly the given condition. -/
def Denotes (semantics : Semantics α) (level : Level) (ls : List Lexeme) (p : Prop) : Prop :=
  ∃ f, Spells semantics.atom level ls f ∧ (semantics.Holds f ↔ p)

/-- Pieces with a lexeme between each two. -/
def joined (separator : Lexeme) : List (List Lexeme) → List Lexeme
  | [] => []
  | [piece] => piece
  | piece :: rest => piece ++ separator :: joined separator rest

theorem joined_eq_intercalate (separator : Lexeme) (pieces : List (List Lexeme)) :
    joined separator pieces = [separator].intercalate pieces := by
  induction pieces with
  | nil => rfl
  | cons piece rest ih =>
    cases rest with
    | nil => exact List.intercalate_singleton.symm
    | cons next rest =>
      rw [joined, ih, List.intercalate_cons_cons, List.append_assoc]
      · rfl
      · exact List.cons_ne_nil next rest

/-- Pieces without the separator are found again between the separators. -/
theorem splitOn_joined {separator : Lexeme} {pieces : List (List Lexeme)}
    (h : ∀ piece ∈ pieces, separator ∉ piece) (hne : pieces ≠ []) :
    (joined separator pieces).splitOn separator = pieces := by
  rw [joined_eq_intercalate, List.splitOn_intercalate separator h hne]

/-- Words up to a closing bracket, with commas between them, each with what it stands for. -/
def readList {β : Type} (item : String → Option β) : LexemeReader (List β)
  | .word s :: .mark ')' :: rest => (item s).map fun b => ([b], rest)
  | .word s :: .mark ',' :: rest => do
    let b ← item s
    let (bs, rest) ← readList item rest
    return (b :: bs, rest)
  | _ => none

theorem readList_joined {β : Type} {item : String → Option β} {words : List String} {bs : List β}
    (h : List.Forall₂ (fun s b => item s = some b) words bs) (hne : words ≠ [])
    (rest : List Lexeme) :
    readList item (joined (.mark ',') (words.map fun s => [.word s]) ++ .mark ')' :: rest) =
      some (bs, rest) := by
  induction h with
  | nil => exact absurd rfl hne
  | @cons s b words bs hb hbs ih =>
    cases hbs with
    | nil =>
      change (item s).map (fun b => ([b], rest)) = _
      rw [hb, Option.map_some]
    | @cons t d words bs hd hbs =>
      change ((item s).bind fun b => (readList item (joined (.mark ',')
        ((t :: words).map fun s => [.word s]) ++ .mark ')' :: rest)).bind fun read =>
          some (b :: read.1, read.2)) = _
      rw [hb, ih (List.cons_ne_nil t words)]
      rfl

/-- Texts with a separator of one lexeme between each two. -/
theorem lexes_join {alphabet : Alphabet} {sep : String} {l : Lexeme} (hsep : alphabet.Lexes sep [l])
    (hstart : alphabet.startsLoose sep = true) (hend : alphabet.endsLoose sep = true)
    {texts : List String} {pieces : List (List Lexeme)}
    (h : List.Forall₂ alphabet.Lexes texts pieces) :
    alphabet.Lexes (join sep texts) (joined l pieces) := by
  induction h with
  | nil => rfl
  | @cons text piece texts pieces ht hrest ih =>
    cases hrest with
    | nil => exact ht
    | cons _ _ =>
      have hs := (ht.append hsep hstart).append_end ih (Alphabet.endsLoose_append hend)
      rwa [List.append_assoc, List.singleton_append] at hs

variable {semantics : Semantics α} {ls : List Lexeme} {p q : Prop}

theorem Denotes.congr {level : Level} (h : Denotes semantics level ls p) (hpq : p ↔ q) :
    Denotes semantics level ls q := by
  obtain ⟨f, hf, hp⟩ := h
  exact ⟨f, hf, hp.trans hpq⟩

theorem Denotes.bracket (h : Denotes semantics .disjunction ls p) :
    Denotes semantics .primary (.mark '(' :: ls ++ [.mark ')']) p := by
  obtain ⟨f, hf, hp⟩ := h
  exact ⟨f, .bracket hf, hp⟩

theorem Denotes.negation (h : Denotes semantics .primary ls p) :
    Denotes semantics .negation ls p := by
  obtain ⟨f, hf, hp⟩ := h
  exact ⟨f, .primary hf, hp⟩

theorem Denotes.conjunction (h : Denotes semantics .negation ls p) :
    Denotes semantics .conjunction ls p := by
  obtain ⟨f, hf, hp⟩ := h
  exact ⟨f, .negation hf, hp⟩

theorem Denotes.disjunction (h : Denotes semantics .conjunction ls p) :
    Denotes semantics .disjunction ls p := by
  obtain ⟨f, hf, hp⟩ := h
  exact ⟨f, .conjunction hf, hp⟩

theorem Denotes.and {ms : List Lexeme} (hp : Denotes semantics .negation ls p)
    (hq : Denotes semantics .conjunction ms q) :
    Denotes semantics .conjunction (ls ++ .word "AND" :: ms) (p ∧ q) := by
  obtain ⟨f, hf, hfp⟩ := hp
  obtain ⟨g, hg, hgq⟩ := hq
  refine ⟨.and f g, .and hf hg, ?_⟩
  rw [semantics.holds_and, hfp, hgq]

theorem Denotes.or {ms : List Lexeme} (hp : Denotes semantics .conjunction ls p)
    (hq : Denotes semantics .disjunction ms q) :
    Denotes semantics .disjunction (ls ++ .word "OR" :: ms) (p ∨ q) := by
  obtain ⟨f, hf, hfp⟩ := hp
  obtain ⟨g, hg, hgq⟩ := hq
  refine ⟨.or f g, .or hf hg, ?_⟩
  rw [semantics.holds_or, hfp, hgq]

/-- Pieces with AND between them hold if all of them do. -/
theorem Denotes.conjoin {β : Type} {holds : β → Prop} {pieces : List (List Lexeme)} {bs : List β}
    (h : List.Forall₂ (fun piece b => Denotes semantics .negation piece (holds b)) pieces bs)
    (hne : pieces ≠ []) :
    Denotes semantics .conjunction (joined (.word "AND") pieces) (∀ b ∈ bs, holds b) := by
  induction h with
  | nil => exact absurd rfl hne
  | @cons piece b pieces bs hb hbs ih =>
    rw [List.forall_mem_cons]
    cases hbs with
    | nil => exact hb.conjunction.congr (by simp)
    | cons _ _ => exact hb.and (ih (List.cons_ne_nil _ _))

/-- Pieces with OR between them hold if one of them does. -/
theorem Denotes.disjoin {β : Type} {holds : β → Prop} {pieces : List (List Lexeme)} {bs : List β}
    (h : List.Forall₂ (fun piece b => Denotes semantics .conjunction piece (holds b)) pieces bs)
    (hne : pieces ≠ []) :
    Denotes semantics .disjunction (joined (.word "OR") pieces) (∃ b ∈ bs, holds b) := by
  induction h with
  | nil => exact absurd rfl hne
  | @cons piece b pieces bs hb hbs ih =>
    rw [List.exists_mem_cons_iff]
    cases hbs with
    | nil => exact hb.disjunction.congr (by simp)
    | cons _ _ => exact hb.or (ih (List.cons_ne_nil _ _))

/-- What is read from denoting lexemes holds under the condition. -/
theorem Denotes.read (h : Denotes semantics .disjunction ls p) :
    ∃ f, Formula.read semantics.atom ls = some f ∧ (semantics.Holds f ↔ p) := by
  obtain ⟨f, hf, hp⟩ := h
  exact ⟨f, hf.read, hp⟩

end Formula

/-- The text of alternatives; there may be none, and a single one stands for itself. -/
def alternatives : List String → Option String
  | [] => none
  | [text] => some text
  | texts => some (join " OR " (texts.map fun text => "(" ++ text ++ ")"))

end QueryCriteria.Text
