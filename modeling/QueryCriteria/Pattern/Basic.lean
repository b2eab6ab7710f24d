/-!
Text patterns: the language of a pattern, stated declaratively, and a matcher that only ever goes
back to the latest run it has passed. The spellings of patterns are in the sibling modules.
-/
namespace QueryCriteria

namespace Pattern

/-- A piece of a pattern. -/
inductive Token where
  /-- Any run of characters, possibly empty. -/
  | run
  /-- Any single character. -/
  | one
  | literal (c : Char)
deriving DecidableEq, Repr

end Pattern

/-- A pattern: tokens that match consecutive parts of a text. -/
abbrev Pattern := List Pattern.Token

namespace Pattern

/-- The texts that belong to a pattern. -/
inductive Matches : Pattern → List Char → Prop where
  | nil : Matches [] []
  | run {pattern : Pattern} {rest : List Char} (skipped : List Char) (h : Matches pattern rest) :
      Matches (.run :: pattern) (skipped ++ rest)
  | one {pattern : Pattern} {rest : List Char} (c : Char) (h : Matches pattern rest) :
      Matches (.one :: pattern) (c :: rest)
  | literal {pattern : Pattern} {rest : List Char} (c : Char) (h : Matches pattern rest) :
      Matches (.literal c :: pattern) (c :: rest)

/-- A run that was passed: where it stands in the pattern, and up to where it skips the text. -/
structure Passed where
  token : Nat
  char : Nat

/-- Where the matcher stands in the pattern and in the text, and the latest run that it passed. -/
structure Cursor where
  token : Nat
  char : Nat
  latest : Option Passed

/-- What a round of the matcher comes to. -/
inductive Round where
  | goOn (cursor : Cursor)
  | done (accepted : Bool)

/-- Right behind a run. Runs before it need not be looked at again. -/
def Passed.behind (run : Passed) : Cursor := ⟨run.token + 1, run.char, some run⟩

/-- The run skips one character more. -/
def Passed.skipOne (run : Passed) : Passed := { run with char := run.char + 1 }

namespace Cursor

def start : Cursor := ⟨0, 0, none⟩

/-- Behind a token and the character that it matched. -/
def next (cursor : Cursor) : Cursor :=
  { cursor with token := cursor.token + 1, char := cursor.char + 1 }

/-- Behind a run at the cursor, which skips nothing so far. -/
def pass (cursor : Cursor) : Cursor :=
  Passed.behind ⟨cursor.token, cursor.char⟩

/-- Goes back to the latest run, which skips one character more. -/
def retry (cursor : Cursor) : Round :=
  match cursor.latest with
  | some run => .goOn run.skipOne.behind
  | none => .done false

section

variable (pattern : Array Token) (text : Array Char)

/--
A round of the matcher: one token is tried on one character. When the text is used up, only runs may
be left. There is no round that reads the text or cuts the pattern outside of its bounds.
-/
def round? (cursor : Cursor) : Option Round :=
  if cursor.char < text.size then
    match pattern[cursor.token]? with
    | some .run => some (.goOn cursor.pass)
    | some .one => some (.goOn cursor.next)
    | some (.literal c) =>
      match text[cursor.char]? with
      | some d => some (if c = d then .goOn cursor.next else cursor.retry)
      | none => none
    | none => some cursor.retry
  else if cursor.token ≤ pattern.size then
    some (.done ((pattern.toList.drop cursor.token).all (· == .run)))
  else none

/-- Round after round up to an answer. There is none if a round is out of bounds, or if they never end. -/
def run? (cursor : Cursor) : Option Bool :=
  match round? pattern text cursor with
  | some (.goOn following) => following |>.run?
  | some (.done accepted) => some accepted
  | none => none
partial_fixpoint

end

end Cursor

/-- The answer of the matcher on a whole text. -/
def answer? (pattern : Pattern) (text : List Char) : Option Bool :=
  Cursor.start.run? pattern.toArray text.toArray

/-- Whether a text belongs to a pattern. -/
def accepts (pattern : Pattern) (text : List Char) : Bool :=
  answer? pattern text == some true

end Pattern

end QueryCriteria
