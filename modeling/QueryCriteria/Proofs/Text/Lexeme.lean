import Mathlib.Tactic.SplitIfs
import QueryCriteria.Text.Split

/-! Texts of query languages cut into lexemes. Texts whose edges do not grow together are cut apart. -/
namespace QueryCriteria.Text

/-- A lexeme. A quoted name is given without its quotes, and a doubled quote in it only once. -/
inductive Lexeme where
  | word (s : String)
  | sign (s : String)
  | mark (c : Char)
  | quoted (name : String)
deriving DecidableEq, Repr

/-- Which characters make up words and signs. Marks stand alone in every language. -/
structure Alphabet where
  word : Char → Bool
  sign : Char → Bool

namespace Alphabet

/-- What has been read of the lexeme at hand. -/
inductive Mode where
  | between
  | word (read : List Char)
  | sign (read : List Char)
  | name (read : List Char)
  /-- Behind a quote, which ends the name unless another quote follows. -/
  | closing (read : List Char)

def isMark (c : Char) : Bool := c == '(' || c == ')' || c == ',' || c == '.'

variable (alphabet : Alphabet)

/-- The lexeme at hand with one more character, if the character belongs to it. -/
def extend? : Mode → Char → Option Mode
  | .between, _ => none
  | .word read, c => if alphabet.word c then some (.word (read ++ [c])) else none
  | .sign read, c => if alphabet.sign c then some (.sign (read ++ [c])) else none
  | .name read, c => some (if c = '"' then .closing read else .name (read ++ [c]))
  | .closing read, c => if c = '"' then some (.name (read ++ [c])) else none

/-- The lexeme at hand when nothing more belongs to it; an open name is no lexeme. -/
def flush : Mode → Option (List Lexeme)
  | .between => some []
  | .word read => some [.word (String.ofList read)]
  | .sign read => some [.sign (String.ofList read)]
  | .name _ => none
  | .closing read => some [.quoted (String.ofList read)]

/-- The first character of a lexeme: a mark is complete, and a blank is none. -/
def enter (c : Char) : Option (List Lexeme × Mode) :=
  if c = ' ' then some ([], .between)
  else if c = '"' then some ([], .name [])
  else if alphabet.word c then some ([], .word [c])
  else if alphabet.sign c then some ([], .sign [c])
  else if isMark c then some ([.mark c], .between)
  else none

/-- The lexemes of a text, of which the one at hand has been begun. -/
def scan (mode : Mode) : List Char → Option (List Lexeme)
  | [] => flush mode
  | c :: rest =>
    match alphabet.extend? mode c with
    | some mode => scan mode rest
    | none =>
      (flush mode).bind fun ended => (alphabet.enter c).bind fun entered =>
        (scan entered.2 rest).map (ended ++ entered.1 ++ ·)

/-- The lexemes of a text; a character that no lexeme begins with spoils it. -/
def lex (cs : List Char) : Option (List Lexeme) := alphabet.scan .between cs

/-- Two neighbours that the longest lexeme would not cut apart. -/
def glues (x y : Char) : Bool :=
  alphabet.word x && alphabet.word y || alphabet.sign x && alphabet.sign y || x == '"' && y == '"'

/-- No lexeme of the joined text spans the seam. -/
def Apart (s t : List Char) : Prop :=
  ∀ x ∈ s.getLast?, ∀ y ∈ t.head?, alphabet.glues x y = false

variable {alphabet}

private theorem scan_seam {mode : Mode} {rest : List Char}
    (h : ∀ c ∈ rest.head?, alphabet.extend? mode c = none) :
    alphabet.scan mode rest =
      (flush mode).bind fun ended => (alphabet.lex rest).map (ended ++ ·) := by
  cases rest with
  | nil => cases mode <;> rfl
  | cons c rest =>
    have hc : alphabet.extend? mode c = none := h c rfl
    have hb : alphabet.extend? .between c = none := rfl
    simp only [lex, scan, hc, hb, flush, Option.bind_some, List.nil_append, Option.map_bind]
    refine congrArg _ (funext fun ended => congrArg _ (funext fun entered => ?_))
    simp only [Function.comp_apply, Option.map_map, List.append_assoc]
    rfl

/-- What the character just read says about the lexeme at hand. -/
private def EndsWith (alphabet : Alphabet) : Mode → Char → Prop
  | .between, _ | .name _, _ => True
  | .word _, x => alphabet.word x = true
  | .sign _, x => alphabet.sign x = true
  | .closing _, x => x = '"'

private theorem endsWith_extend {mode next : Mode} {x : Char}
    (h : alphabet.extend? mode x = some next) : EndsWith alphabet next x := by
  cases mode with
  | between => cases h
  | word read =>
    obtain ⟨hx, rfl⟩ : alphabet.word x = true ∧ Mode.word (read ++ [x]) = next := by
      simpa [extend?] using h
    exact hx
  | sign read =>
    obtain ⟨hx, rfl⟩ : alphabet.sign x = true ∧ Mode.sign (read ++ [x]) = next := by
      simpa [extend?] using h
    exact hx
  | name read =>
    obtain rfl := Option.some.inj h
    split
    · assumption
    · trivial
  | closing read =>
    obtain ⟨_, rfl⟩ : x = '"' ∧ Mode.name (read ++ [x]) = next := by simpa [extend?] using h
    trivial

private theorem endsWith_enter {x : Char} {first : List Lexeme} {next : Mode}
    (h : alphabet.enter x = some (first, next)) : EndsWith alphabet next x := by
  unfold enter at h
  split_ifs at h with _ _ hw hs _ <;> obtain ⟨_, rfl⟩ := Prod.mk.inj (Option.some.inj h)
  · trivial
  · trivial
  · exact hw
  · exact hs
  · trivial

private theorem extend_of_not_glues {mode : Mode} {x y : Char} (hx : EndsWith alphabet mode x)
    (hf : (flush mode).isSome) (hg : alphabet.glues x y = false) :
    alphabet.extend? mode y = none := by
  simp only [glues, Bool.or_eq_false_iff, Bool.and_eq_false_iff] at hg
  obtain ⟨⟨hw, hs⟩, hq⟩ := hg
  cases mode with
  | between => rfl
  | word read => simp [extend?, hw.resolve_left (by simp [show alphabet.word x = true from hx])]
  | sign read => simp [extend?, hs.resolve_left (by simp [show alphabet.sign x = true from hx])]
  | name read => cases hf
  | closing read =>
    have hy := hq.resolve_left (by simp [show x = '"' from hx])
    simp [extend?, (beq_eq_false_iff_ne.mp hy)]

private theorem scan_append {mode : Mode} {s t : List Char} {ls : List Lexeme}
    (h : alphabet.scan mode s = some ls) (ha : alphabet.Apart s t)
    (hm : s = [] → ∀ y ∈ t.head?, alphabet.extend? mode y = none) :
    alphabet.scan mode (s ++ t) = (alphabet.lex t).map (ls ++ ·) := by
  induction s generalizing mode ls with
  | nil =>
    have hf : flush mode = some ls := h
    rw [List.nil_append, scan_seam (hm rfl), hf, Option.bind_some]
  | cons c s ih =>
    have seam {next : Mode} {more : List Lexeme} (hn : EndsWith alphabet next c)
        (hs : alphabet.scan next s = some more) :
        alphabet.scan next (s ++ t) = (alphabet.lex t).map (more ++ ·) := by
      refine ih hs ?_ ?_
      · intro x hx y hy
        cases s with
        | nil => cases hx
        | cons d s => exact ha x (by simpa using hx) y hy
      · rintro rfl y hy
        have hf : flush next = some more := hs
        exact extend_of_not_glues hn (by simp [hf]) (ha c rfl y hy)
    simp only [scan, List.cons_append] at h ⊢
    cases he : alphabet.extend? mode c with
    | some next =>
      simp only [he] at h ⊢
      exact seam (endsWith_extend he) h
    | none =>
      simp only [he] at h ⊢
      obtain ⟨ended, hf, h⟩ := Option.bind_eq_some_iff.mp h
      obtain ⟨⟨first, next⟩, hn, h⟩ := Option.bind_eq_some_iff.mp h
      obtain ⟨more, hs, rfl⟩ := Option.map_eq_some_iff.mp h
      simp only [hf, hn, Option.bind_some, seam (endsWith_enter hn) hs, Option.map_map]
      refine congrArg (Option.map · (alphabet.lex t)) (funext fun rest => ?_)
      simp only [Function.comp_apply, List.append_assoc]

/-- A text and what follows it are cut apart, provided that nothing grows over the seam. -/
theorem lex_append {s t : List Char} {ls : List Lexeme} (h : alphabet.lex s = some ls)
    (ha : alphabet.Apart s t) : alphabet.lex (s ++ t) = (alphabet.lex t).map (ls ++ ·) :=
  scan_append h ha (fun _ _ _ => rfl)

theorem lex_append_some {s t : List Char} {ls ms : List Lexeme} (hs : alphabet.lex s = some ls)
    (ht : alphabet.lex t = some ms) (ha : alphabet.Apart s t) :
    alphabet.lex (s ++ t) = some (ls ++ ms) := by
  rw [lex_append hs ha, ht, Option.map_some]

variable (alphabet) in
/-- A character that grows together with nothing. -/
def Loose (c : Char) : Prop :=
  alphabet.word c = false ∧ alphabet.sign c = false ∧ c ≠ '"'

instance (c : Char) : Decidable (alphabet.Loose c) :=
  inferInstanceAs (Decidable (alphabet.word c = false ∧ alphabet.sign c = false ∧ c ≠ '"'))

theorem Loose.glues_left {c : Char} (h : alphabet.Loose c) (y : Char) :
    alphabet.glues c y = false := by
  obtain ⟨hw, hs, hq⟩ := h
  simp [glues, hw, hs, hq]

theorem Loose.glues_right {c : Char} (h : alphabet.Loose c) (x : Char) :
    alphabet.glues x c = false := by
  obtain ⟨hw, hs, hq⟩ := h
  simp [glues, hw, hs, hq]

theorem apart_cons {s t : List Char} {c : Char} (h : alphabet.Loose c) :
    alphabet.Apart s (c :: t) := by
  intro x _ y hy
  obtain rfl : c = y := by simpa using hy
  exact h.glues_right x

theorem apart_concat {s t : List Char} {c : Char} (h : alphabet.Loose c) :
    alphabet.Apart (s ++ [c]) t := by
  intro x hx y _
  obtain rfl : c = x := by simpa using hx
  exact h.glues_left y

private theorem scan_word {read cs : List Char} (h : ∀ c ∈ cs, alphabet.word c = true) :
    alphabet.scan (.word read) cs = some [.word (String.ofList (read ++ cs))] := by
  induction cs generalizing read with
  | nil => rw [List.append_nil]; rfl
  | cons c cs ih =>
    have hc : alphabet.extend? (.word read) c = some (.word (read ++ [c])) := by
      simp [extend?, h c List.mem_cons_self]
    simp only [scan, hc]
    rw [ih fun d hd => h d (List.mem_cons_of_mem c hd), List.append_assoc, List.singleton_append]

/-- Characters of words alone are one word. -/
theorem lex_word {c : Char} {cs : List Char} (hb : c ≠ ' ') (hq : c ≠ '"')
    (h : ∀ d ∈ c :: cs, alphabet.word d = true) :
    alphabet.lex (c :: cs) = some [.word (String.ofList (c :: cs))] := by
  have hc : alphabet.enter c = some ([], .word [c]) := by
    simp [enter, hb, hq, h c List.mem_cons_self]
  have hn : alphabet.extend? .between c = none := rfl
  simp only [lex, scan, hn, flush, hc, Option.bind_some]
  rw [scan_word fun d hd => h d (List.mem_cons_of_mem c hd)]
  rfl

/-- A name with its quotes doubled. -/
def doubled (name : List Char) : List Char :=
  name.flatMap fun c => if c == '"' then ['"', '"'] else [c]

private theorem scan_doubled (read name : List Char) :
    alphabet.scan (.name read) (doubled name ++ ['"']) =
      some [.quoted (String.ofList (read ++ name))] := by
  induction name generalizing read with
  | nil => rw [List.append_nil]; rfl
  | cons c name ih =>
    by_cases hc : c = '"'
    · subst hc
      have := ih (read ++ ['"'])
      rw [List.append_assoc, List.singleton_append] at this
      simpa [doubled, scan, extend?] using this
    · have := ih (read ++ [c])
      rw [List.append_assoc, List.singleton_append] at this
      simpa [doubled, scan, extend?, hc] using this

/-- A quoted name is one lexeme, whatever the name holds. -/
theorem lex_doubled (name : List Char) :
    alphabet.lex ('"' :: (doubled name ++ ['"'])) = some [.quoted (String.ofList name)] := by
  have := @scan_doubled alphabet [] name
  simpa [lex, scan, extend?, flush, enter] using this

variable (alphabet)

/-- The lexemes of a text. -/
def Lexes (s : String) (ls : List Lexeme) : Prop :=
  alphabet.lex s.toList = some ls

def startsLoose (s : String) : Bool :=
  s.toList.head?.any fun c => alphabet.Loose c

def endsLoose (s : String) : Bool :=
  s.toList.getLast?.any fun c => alphabet.Loose c

variable {alphabet} {s t : String} {ls ms : List Lexeme}

theorem startsLoose_iff :
    alphabet.startsLoose s = true ↔ ∃ c, s.toList.head? = some c ∧ alphabet.Loose c := by
  simp [startsLoose, Option.any_eq_true]

theorem endsLoose_iff :
    alphabet.endsLoose s = true ↔ ∃ c, s.toList.getLast? = some c ∧ alphabet.Loose c := by
  simp [endsLoose, Option.any_eq_true]

/-- A text that begins loosely behind another. -/
theorem Lexes.append (hs : alphabet.Lexes s ls) (ht : alphabet.Lexes t ms)
    (h : alphabet.startsLoose t = true) : alphabet.Lexes (s ++ t) (ls ++ ms) := by
  rw [Lexes, String.toList_append]
  refine lex_append_some hs ht ?_
  obtain ⟨c, hc, hl⟩ := startsLoose_iff.mp h
  obtain ⟨rest, hrest⟩ := List.head?_eq_some_iff.mp hc
  rw [hrest]
  exact apart_cons hl

/-- A text behind another that ends loosely. -/
theorem Lexes.append_end (hs : alphabet.Lexes s ls) (ht : alphabet.Lexes t ms)
    (h : alphabet.endsLoose s = true) : alphabet.Lexes (s ++ t) (ls ++ ms) := by
  rw [Lexes, String.toList_append]
  refine lex_append_some hs ht ?_
  obtain ⟨c, hc, hl⟩ := endsLoose_iff.mp h
  obtain ⟨front, hfront⟩ := List.getLast?_eq_some_iff.mp hc
  rw [hfront]
  exact apart_concat hl

theorem endsLoose_append (h : alphabet.endsLoose t = true) : alphabet.endsLoose (s ++ t) = true := by
  obtain ⟨c, hc, hl⟩ := endsLoose_iff.mp h
  simp [endsLoose, List.getLast?_append, hc, hl]

/-- A text of word characters is one word. -/
theorem lexes_word (hb : alphabet.word ' ' = false) (hq : alphabet.word '"' = false) (hs : s ≠ "")
    (h : ∀ c ∈ s.toList, alphabet.word c = true) : alphabet.Lexes s [.word s] := by
  cases hl : s.toList with
  | nil => exact absurd (String.toList_inj.mp hl) hs
  | cons c cs =>
    rw [hl] at h
    have hc := h c List.mem_cons_self
    have hlex := lex_word (fun he => by rw [he, hb] at hc; cases hc)
      (fun he => by rw [he, hq] at hc; cases hc) h
    rw [Lexes, hl, hlex, ← hl, String.ofList_toList]

end Alphabet

end QueryCriteria.Text
