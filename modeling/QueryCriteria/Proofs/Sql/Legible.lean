import Mathlib.Data.List.Chain
import QueryCriteria.Proofs.Decimal.Digits
import QueryCriteria.Proofs.Text.Formula
import QueryCriteria.Sql.Token

/-!
The lexemes of rendered SQL. Tokens whose neighbours do not grow together are cut apart again as they
were, a name as one quoted lexeme whatever it holds, and the places of values in ascending order.
-/
namespace QueryCriteria.Sql

open Text (Lexeme Alphabet)

/-- Letters, digits and the sign of a parameter make up words. -/
def alphabet : Alphabet where
  word c := c.isAlphanum || c == '_' || c == '$'
  sign c := c == '=' || c == '<' || c == '>' || c == '!' || c == ':' || c == '*'

namespace Token

/-- The text of a token, a parameter being the one with the given number. -/
def chars (k : Nat) : Token → List Char
  | .fixed s => s.toList
  | .identifier name => (quoteIdentifier name).toList
  | .param _ => ("$" ++ toString k).toList

/-- The number of the first parameter behind a token. -/
def next (k : Nat) : Token → Nat
  | .param _ => k + 1
  | _ => k

def lexemes (k : Nat) : Token → List Lexeme
  | .fixed s => (alphabet.lex s.toList).getD []
  | .identifier name => [.quoted name]
  | .param _ => [.word ("$" ++ toString k)]

def first? : Token → Option Char
  | .fixed s => s.toList.head?
  | .identifier _ => some '"'
  | .param _ => some '$'

/-- The last character. That of a parameter is a digit, and all digits behave alike. -/
def last? : Token → Option Char
  | .fixed s => s.toList.getLast?
  | .identifier _ => some '"'
  | .param _ => some '0'

/-- No lexeme spans the seam between two tokens. -/
def Apart (a b : Token) : Prop :=
  ∀ x ∈ a.last?, ∀ y ∈ b.first?, alphabet.glues x y = false

/-- Text of the statement's own is not empty and can be cut into lexemes. -/
def Readable : Token → Prop
  | .fixed s => s ≠ "" ∧ (alphabet.lex s.toList).isSome
  | _ => True

end Token

/-- The lexemes of tokens whose first parameter has the given number. -/
def lexemesFrom (k : Nat) : List Token → List Lexeme
  | [] => []
  | token :: rest => token.lexemes k ++ lexemesFrom (token.next k) rest

/-- Tokens that are cut apart again after rendering. -/
structure Legible (tokens : List Token) : Prop where
  readable : ∀ token ∈ tokens, token.Readable
  apart : tokens.IsChain Token.Apart

theorem toList_renderFrom_cons (k : Nat) (token : Token) (rest : List Token) :
    (renderFrom k (token :: rest)).toList =
      token.chars k ++ (renderFrom (token.next k) rest).toList := by
  cases token <;> simp [renderFrom, Token.chars, Token.next]

theorem params_append (as bs : List Token) : params (as ++ bs) = params as ++ params bs :=
  List.filterMap_append

theorem next_add (k : Nat) (token : Token) (rest : List Token) :
    token.next k + (params rest).length = k + (params (token :: rest)).length := by
  cases token with
  | fixed s => rfl
  | identifier name => rfl
  | param value =>
    have hp : params (.param value :: rest) = value :: params rest := rfl
    rw [hp, List.length_cons, Token.next]
    omega

theorem lexemesFrom_append (k : Nat) (as bs : List Token) :
    lexemesFrom k (as ++ bs) = lexemesFrom k as ++ lexemesFrom (k + (params as).length) bs := by
  induction as generalizing k with
  | nil => rfl
  | cons token as ih =>
    rw [List.cons_append, lexemesFrom, ih, next_add, lexemesFrom, List.append_assoc]

private theorem head_chars {token : Token} (h : token.Readable) (k : Nat) (rest : List Char) :
    (token.chars k ++ rest).head? = token.first? := by
  cases token with
  | fixed s =>
    cases hs : s.toList with
    | nil => exact absurd (String.toList_inj.mp hs) h.1
    | cons c cs => simp [Token.chars, Token.first?, hs]
  | identifier name => simp [Token.chars, Token.first?, quoteIdentifier]
  | param value => simp [Token.chars, Token.first?]

theorem word_of_isDigit {c : Char} (h : c.isDigit = true) : alphabet.word c = true := by
  simp [alphabet, Char.isAlphanum, h]

private theorem chars_identifier (name : String) (k : Nat) :
    (Token.identifier name).chars k = '"' :: (Alphabet.doubled name.toList ++ ['"']) := by
  simp [Token.chars, quoteIdentifier, Alphabet.doubled]

private theorem lex_chars {token : Token} (h : token.Readable) (k : Nat) :
    alphabet.lex (token.chars k) = some (token.lexemes k) := by
  cases token with
  | fixed s =>
    obtain ⟨ls, hls⟩ := Option.isSome_iff_exists.mp h.2
    simp [Token.chars, Token.lexemes, hls]
  | identifier name =>
    rw [chars_identifier, Alphabet.lex_doubled, String.ofList_toList]
    rfl
  | param value =>
    have hw : ∀ c ∈ '$' :: Nat.toDigits 10 k, alphabet.word c = true := by
      intro c hc
      rcases List.mem_cons.mp hc with rfl | hc
      · rfl
      · exact word_of_isDigit (Nat.isDigit_of_mem_toDigits (by decide) (by decide) hc)
    have hc : (Token.param value).chars k = '$' :: Nat.toDigits 10 k := by
      simp only [Token.chars, String.toList_append, Decimal.toList_toString]
      rfl
    have hs : "$" ++ toString k = String.ofList ('$' :: Nat.toDigits 10 k) := by
      rw [← hc, Token.chars, String.ofList_toList]
    rw [hc, Alphabet.lex_word (by decide) (by decide) hw, Token.lexemes, hs]

/-- The last character of a token glues to nothing that its representative does not glue to. -/
private theorem glues_last {token : Token} (h : token.Readable) (k : Nat) {x y : Char}
    (hx : x ∈ (token.chars k).getLast?) :
    ∃ z ∈ token.last?, alphabet.glues z y = false → alphabet.glues x y = false := by
  cases token with
  | fixed s => exact ⟨x, hx, id⟩
  | identifier name =>
    obtain rfl : '"' = x := by
      have hc := congrArg List.getLast? (chars_identifier name k)
      rw [hx, ← List.cons_append, List.getLast?_concat] at hc
      exact (Option.some.inj hc).symm
    exact ⟨'"', rfl, id⟩
  | param value =>
    refine ⟨'0', rfl, fun hg => ?_⟩
    have hd : x.isDigit = true := by
      rw [Token.chars, String.toList_append, Decimal.toList_toString,
        List.getLast?_append_of_ne_nil _ (Decimal.toDigits_ne_nil k)] at hx
      exact Nat.isDigit_of_mem_toDigits (by decide) (by decide) (List.mem_of_getLast? hx)
    have hq : x ≠ '"' := by rintro rfl; exact absurd hd (by decide)
    have hs : alphabet.sign x = false := by
      cases hs : alphabet.sign x with
      | false => rfl
      | true =>
        simp only [alphabet, Bool.or_eq_true, beq_iff_eq] at hs
        rcases hs with ((((rfl | rfl) | rfl) | rfl) | rfl) | rfl <;> exact absurd hd (by decide)
    have hy : alphabet.word y = false := by
      have h0 : alphabet.word '0' = true := rfl
      simpa [Alphabet.glues, h0, show alphabet.sign '0' = false from rfl] using hg
    simp [Alphabet.glues, hy, hs, hq]

/-- Rendered tokens are cut apart into the lexemes of each. -/
theorem lex_renderFrom {tokens : List Token} (h : Legible tokens) (k : Nat) :
    alphabet.lex (renderFrom k tokens).toList = some (lexemesFrom k tokens) := by
  obtain ⟨hread, hapart⟩ := h
  induction tokens generalizing k with
  | nil => rfl
  | cons token rest ih =>
    have hr := hread token List.mem_cons_self
    rw [toList_renderFrom_cons, lexemesFrom]
    refine Alphabet.lex_append_some (lex_chars hr k)
      (ih (token.next k) (fun t ht => hread t (List.mem_cons_of_mem token ht)) hapart.tail) ?_
    intro x hx y hy
    cases rest with
    | nil => cases hy
    | cons following rest =>
      rw [toList_renderFrom_cons, head_chars (hread following (by simp))] at hy
      obtain ⟨z, hz, hzx⟩ := glues_last hr k hx
      exact hzx ((List.isChain_cons_cons.mp hapart).1 z hz y hy)

namespace Token

/-- Readable text whose two ends grow together with nothing. -/
structure Loose (token : Token) : Prop where
  readable : token.Readable
  first : ∀ c ∈ token.first?, alphabet.Loose c
  last : ∀ c ∈ token.last?, alphabet.Loose c

theorem loose_fixed {s : String} {first last : Char} (hs : (alphabet.lex s.toList).isSome = true)
    (hfirst : s.toList.head? = some first) (hlast : s.toList.getLast? = some last)
    (h : alphabet.Loose first ∧ alphabet.Loose last) : (Token.fixed s).Loose where
  readable := by
    refine ⟨?_, hs⟩
    rintro rfl
    cases hfirst
  first c hc := by
    obtain rfl : first = c := Option.some.inj (hfirst.symm.trans hc)
    exact h.1
  last c hc := by
    obtain rfl : last = c := Option.some.inj (hlast.symm.trans hc)
    exact h.2

theorem apart_of_chars {a b : Token} {x y : Char} (hx : a.last? = some x) (hy : b.first? = some y)
    (h : alphabet.glues x y = false) : a.Apart b := by
  intro x' hx' y' hy'
  obtain rfl : x = x' := Option.some.inj (hx.symm.trans hx')
  obtain rfl : y = y' := Option.some.inj (hy.symm.trans hy')
  exact h

theorem Loose.apart_left {token : Token} (h : token.Loose) (other : Token) : token.Apart other := by
  intro x hx y _
  exact (h.last x hx).glues_left y

theorem Loose.apart_right {token : Token} (h : token.Loose) (other : Token) : other.Apart token := by
  intro x _ y hy
  exact (h.first y hy).glues_right x

end Token

namespace Legible

theorem nil : Legible [] := ⟨nofun, .nil⟩

theorem singleton {token : Token} (h : token.Readable) : Legible [token] :=
  ⟨fun _ ht => List.mem_singleton.mp ht ▸ h, .singleton token⟩

theorem cons {token following : Token} {rest : List Token} (h : token.Readable)
    (ha : token.Apart following) (hr : Legible (following :: rest)) :
    Legible (token :: following :: rest) :=
  ⟨List.forall_mem_cons.mpr ⟨h, hr.readable⟩, List.isChain_cons_cons.mpr ⟨ha, hr.apart⟩⟩

theorem append {as bs : List Token} (ha : Legible as) (hb : Legible bs)
    (h : ∀ a ∈ as.getLast?, ∀ b ∈ bs.head?, a.Apart b) : Legible (as ++ bs) :=
  ⟨List.forall_mem_append.mpr ⟨ha.readable, hb.readable⟩, ha.apart.append hb.apart h⟩

theorem loose_cons {token : Token} {rest : List Token} (h : token.Loose) (hr : Legible rest) :
    Legible (token :: rest) :=
  append (singleton h.readable) hr fun a ha b _ => by
    obtain rfl : token = a := by simpa using ha
    exact h.apart_left b

/-- Legible tokens on both sides of a loose one. -/
theorem between {l m : List Token} {token : Token} (hl : Legible l) (h : token.Loose)
    (hm : Legible m) : Legible (l ++ token :: m) :=
  append hl (loose_cons h hm) fun a _ b hb => by
    obtain rfl : token = b := by simpa using hb
    exact h.apart_right a

theorem separated {sep : String} (h : (Token.fixed sep).Loose) {lists : List (List Token)}
    (hl : ∀ tokens ∈ lists, Legible tokens) : Legible (Sql.separated sep lists) := by
  induction lists with
  | nil => exact nil
  | cons tokens rest ih =>
    have ht := hl tokens List.mem_cons_self
    cases rest with
    | nil => exact ht
    | cons following rest =>
      exact between ht h (ih fun ts hts => hl ts (List.mem_cons_of_mem tokens hts))

end Legible

/-- The lexemes of token lists that stand one after another. -/
def lexemesAll (k : Nat) : List (List Token) → List (List Lexeme)
  | [] => []
  | tokens :: rest => lexemesFrom k tokens :: lexemesAll (k + (params tokens).length) rest

/-- Token lists of one shape, whose lexemes do not depend on the numbers of parameters. -/
theorem lexemesAll_map {α : Type} {f : α → List Token} {g : α → List Lexeme}
    (h : ∀ k a, lexemesFrom k (f a) = g a) (k : Nat) (as : List α) :
    lexemesAll k (as.map f) = as.map g := by
  induction as generalizing k with
  | nil => rfl
  | cons a rest ih => rw [List.map_cons, List.map_cons, lexemesAll, h, ih]

/-- A separator of one lexeme stands between the lexemes of what it separates. -/
theorem lexemesFrom_separated {sep : String} {l : Lexeme} (h : alphabet.lex sep.toList = some [l])
    (k : Nat) (lists : List (List Token)) :
    lexemesFrom k (separated sep lists) = Text.Formula.joined l (lexemesAll k lists) := by
  induction lists generalizing k with
  | nil => rfl
  | cons tokens rest ih =>
    cases rest with
    | nil => rfl
    | cons following rest =>
      have hsep : (Token.fixed sep).lexemes (k + (params tokens).length) = [l] := by
        rw [Token.lexemes, h, Option.getD_some]
      have hs : separated sep (tokens :: following :: rest) =
          tokens ++ .fixed sep :: separated sep (following :: rest) := rfl
      rw [hs, lexemesFrom_append, lexemesFrom, hsep]
      exact congrArg (lexemesFrom k tokens ++ l :: ·) (ih (k + (params tokens).length))

end QueryCriteria.Sql
