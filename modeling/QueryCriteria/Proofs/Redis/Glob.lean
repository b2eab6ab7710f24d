import Mathlib.Data.List.Infix
import QueryCriteria.Proofs.Text.Utf8
import QueryCriteria.Redis.Key

/-!
Globs as the server reads them, byte by byte: `*` is any run of bytes, `?` any byte, brackets enclose a
class of bytes, and a backslash makes the next byte literal. The globs of scans match exactly the keys
that begin with a text.
-/
namespace QueryCriteria.Redis.Glob

/-- The least and the greatest byte of a part of a class. -/
abbrev Bounds := UInt8 × UInt8

inductive Token where
  | run
  | one
  /-- A byte of one of the parts, or of none. -/
  | oneOf (excluded : Bool) (parts : List Bounds)
  | literal (b : UInt8)

/-- The byte of an ASCII character. -/
def byte (c : Char) : UInt8 :=
  UInt8.ofNat c.val.toNat

/--
The tokens of a glob, outside of brackets or with what was read of a class. A class without an end goes
on to the end of the glob, and a backslash at the very end stands for itself.
-/
def readTokens : Option (Bool × List Bounds) → List UInt8 → List Token
  | none, [] => []
  | some (excluded, parts), [] => [.oneOf excluded parts]
  | none, b :: rest =>
    if b = byte '*' then .run :: readTokens none rest
    else if b = byte '?' then .one :: readTokens none rest
    else if b = byte '[' then
      match rest with
      | [] => readTokens (some (false, [])) []
      | c :: inner =>
        if c = byte '^' then readTokens (some (true, [])) inner
        else readTokens (some (false, [])) (c :: inner)
    else if b = byte '\\' then
      match rest with
      | [] => [.literal b]
      | c :: rest => .literal c :: readTokens none rest
    else .literal b :: readTokens none rest
  | some (excluded, parts), b :: rest =>
    match rest with
    | [] =>
      if b = byte ']' then [.oneOf excluded parts]
      else readTokens (some (excluded, (b, b) :: parts)) []
    | c :: inner =>
      if b = byte '\\' then readTokens (some (excluded, (c, c) :: parts)) inner
      else if b = byte ']' then .oneOf excluded parts :: readTokens none (c :: inner)
      else
        match inner with
        | [] => readTokens (some (excluded, (b, b) :: parts)) [c]
        | d :: behind =>
          if c = byte '-' then readTokens (some (excluded, (min b d, max b d) :: parts)) behind
          else readTokens (some (excluded, (b, b) :: parts)) (c :: d :: behind)

def tokens (glob : String) : List Token :=
  readTokens none (Text.utf8 glob)

/-- Whether bytes fall into pieces of which each matches its token. -/
def accepts : List Token → List UInt8 → Bool
  | [], bytes => bytes.isEmpty
  | .run :: tokens, bytes => bytes.tails.any (accepts tokens)
  | .one :: tokens, _ :: bytes => accepts tokens bytes
  | .oneOf excluded parts :: tokens, b :: bytes =>
    parts.any (fun part => part.1 ≤ b && b ≤ part.2) != excluded && accepts tokens bytes
  | .literal c :: tokens, b :: bytes => b == c && accepts tokens bytes
  | _ :: _, [] => false

end Glob

/-- Whether the server takes a key for one that matches a glob. -/
def globMatches (glob key : String) : Bool :=
  Glob.accepts (Glob.tokens glob) (Text.utf8 key)

example : globMatches "h[^a-c]t?\\*" "hots*" = true := by rfl

namespace Glob

theorem accepts_literals {bs : List UInt8} (tokens : List Token) (bytes : List UInt8) :
    accepts (bs.map .literal ++ tokens) bytes = true ↔
      ∃ rest, bytes = bs ++ rest ∧ accepts tokens rest = true := by
  induction bs generalizing bytes with
  | nil => simp
  | cons b bs ih =>
    cases bytes with
    | nil => simp [accepts]
    | cons c bytes =>
      simp only [List.map_cons, List.cons_append, accepts, Bool.and_eq_true, beq_iff_eq, ih,
        List.cons.injEq]
      constructor
      · rintro ⟨rfl, rest, rfl, h⟩
        exact ⟨rest, ⟨rfl, rfl⟩, h⟩
      · rintro ⟨rest, ⟨rfl, rfl⟩, h⟩
        exact ⟨rfl, rest, rfl, h⟩

theorem accepts_run (bytes : List UInt8) : accepts [.run] bytes = true := by
  rw [accepts, List.any_eq_true]
  exact ⟨[], (List.mem_tails _ _).mpr List.nil_suffix, rfl⟩

private theorem readTokens_literal {b : UInt8}
    (h : ∀ c ∈ ['*', '?', '[', '\\'], b ≠ byte c) (rest : List UInt8) :
    readTokens none (b :: rest) = .literal b :: readTokens none rest := by
  rw [readTokens.eq_def]
  dsimp only
  rw [if_neg (h '*' (by simp)), if_neg (h '?' (by simp)), if_neg (h '[' (by simp)),
    if_neg (h '\\' (by simp))]

private theorem readTokens_literals {bs : List UInt8}
    (h : ∀ b ∈ bs, ∀ c ∈ ['*', '?', '[', '\\'], b ≠ byte c) (rest : List UInt8) :
    readTokens none (bs ++ rest) = bs.map .literal ++ readTokens none rest := by
  induction bs with
  | nil => rfl
  | cons b bs ih =>
    obtain ⟨hb, hbs⟩ := List.forall_mem_cons.mp h
    rw [List.cons_append, readTokens_literal hb, ih hbs]
    rfl

/-- A character with a meaning of its own. -/
private def special (c : Char) : Bool :=
  c == '\\' || c == '*' || c == '?' || c == '[' || c == ']'

private theorem encode_of_special {c : Char} (h : special c = true) :
    String.utf8EncodeChar c = [byte c] := by
  simp only [special, Bool.or_eq_true, beq_iff_eq] at h
  rcases h with (((rfl | rfl) | rfl) | rfl) | rfl <;> rfl

/-- Only a character with a meaning of its own has the byte of one. -/
private theorem special_of_byte {c d : Char} (h : byte d ∈ String.utf8EncodeChar c)
    (hd : d ∈ ['*', '?', '[', '\\']) : special c = true := by
  have hvalue := Text.toNat_of_mem_encode h
  have hsmall : (byte d).toNat = d.val.toNat ∧ d.val.toNat < 128 ∧ special d = true := by
    simp only [List.mem_cons, List.not_mem_nil, or_false] at hd
    rcases hd with rfl | rfl | rfl | rfl <;> decide
  obtain ⟨hbyte, hascii, hspecial⟩ := hsmall
  have hc : c = d := Char.ext (UInt32.toNat_inj.mp (by omega))
  rw [hc]
  exact hspecial

/-- An escaped character is read as its bytes. -/
private theorem readTokens_escaped (c : Char) (rest : List UInt8) :
    readTokens none
        ((if special c then ['\\', c] else [c]).flatMap String.utf8EncodeChar ++ rest) =
      (String.utf8EncodeChar c).map .literal ++ readTokens none rest := by
  by_cases hc : special c = true
  · rw [if_pos hc, encode_of_special hc]
    simp only [List.flatMap_cons, List.flatMap_nil, List.append_nil, encode_of_special hc]
    rfl
  · rw [if_neg hc]
    simp only [List.flatMap_cons, List.flatMap_nil, List.append_nil]
    exact readTokens_literals (fun b hb d hd he => hc (special_of_byte (he ▸ hb) hd)) rest

theorem tokens_keysFrom (start : String) :
    tokens (keysFrom start) = (Text.utf8 start).map .literal ++ [.run] := by
  have hread : ∀ cs : List Char,
      readTokens none ((cs.flatMap fun c => if special c then ['\\', c] else [c]).flatMap
        String.utf8EncodeChar ++ [byte '*']) =
      (cs.flatMap String.utf8EncodeChar).map .literal ++ [.run] := by
    intro cs
    induction cs with
    | nil => rfl
    | cons c cs ih =>
      rw [List.flatMap_cons, List.flatMap_append, List.append_assoc, readTokens_escaped, ih,
        List.flatMap_cons, List.map_append, List.append_assoc]
  have hstar : Text.utf8 "*" = [byte '*'] := rfl
  rw [tokens, keysFrom, Text.utf8_append, hstar, Text.utf8_eq_flatMap start, ← hread,
    Text.utf8_eq_flatMap, Pattern.escapeGlob, Pattern.escapeWhere, String.toList_ofList]
  rfl

/-- The glob of a scan accepts the bytes that begin with those of the text, be they a text or not. -/
theorem accepts_keysFrom (start : String) (bytes : List UInt8) :
    accepts (tokens (keysFrom start)) bytes = true ↔ Text.utf8 start <+: bytes := by
  rw [tokens_keysFrom, accepts_literals]
  constructor
  · rintro ⟨rest, h, -⟩
    exact ⟨rest, h.symm⟩
  · rintro ⟨rest, h⟩
    exact ⟨rest, h.symm, accepts_run rest⟩

/-- The glob of a scan matches the keys that begin with the text, whatever stands in the text. -/
theorem globMatches_keysFrom (start key : String) :
    globMatches (keysFrom start) key = start.toList.isPrefixOf key.toList := by
  rw [Bool.eq_iff_iff, globMatches, accepts_keysFrom, List.isPrefixOf_iff_prefix, Text.utf8_prefix_iff]

example : globMatches (keysFrom "a*:") "a*:7" = true := by rfl
example : globMatches (keysFrom "a*:") "ab:7" = false := by rfl

end Glob

end QueryCriteria.Redis
