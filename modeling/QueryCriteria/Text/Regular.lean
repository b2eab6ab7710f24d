import QueryCriteria.Decimal.Numeral
import QueryCriteria.Text.Alphanumeric
import QueryCriteria.Text.Scanner

/-!
Whether a text is a regular expression that can be made an automaton: groups, classes, repetitions,
alternatives and escapes. Classes and foldings that need tables of Unicode are refused, and so are the
borders of words.
-/
namespace QueryCriteria.Regular

/-- Characters with a meaning of their own. -/
def metaChars : List Char :=
  "\\.+*?()|[]^$#&-~".toList ++ ['\x7b', '\x7d']

/-- ASCII characters that stand for themselves behind a backslash. -/
def isEscapable (c : Char) : Bool :=
  metaChars.contains c || (c.toNat < 0x80 && !c.isAlphanum && c != '<' && c != '>')

/-- Letters that stand for a control behind a backslash. -/
def isControlLetter (c : Char) : Bool :=
  "aftnrv".toList.contains c

/-- The number of hexadecimal digits behind a letter. -/
def codeLength? : Char → Option Nat
  | 'x' => some 2
  | 'u' => some 4
  | 'U' => some 8
  | _ => none

/-- What stands behind a backslash: the character that it stands for, if it stands for one. -/
def escape : Scanner (Option Char) := do
  let c ← Scanner.next
  match codeLength? c with
  | some length =>
    let digits := (← Scanner.rest).take length
    modify (·.drop length)
    let n ← Scanner.lift (Decimal.natInBase? 16 digits)
    if digits.length = length ∧ n.isValidChar then return some (Char.ofNat n) else Scanner.refuse
  | none =>
    if isEscapable c || isControlLetter c then return some c
    else if c = 'A' ∨ c = 'z' then return none
    else Scanner.refuse

/-- An item of a class: a character, bare or behind a backslash. -/
def classChar : Scanner Char := do
  match ← Scanner.next with
  | '\\' =>
    match ← escape with
    | some c => return c
    | none => Scanner.refuse
  | c => return c

/-- The names of classes of ASCII characters. -/
def classNames : List String :=
  ["alnum", "alpha", "ascii", "blank", "cntrl", "digit", "graph", "lower", "print", "punct", "space",
    "upper", "word", "xdigit"]

/-- A class by its name, such as `[:alpha:]`; its bracket is already taken. -/
def namedClass : Scanner Bool := fun cs =>
  match cs with
  | ':' :: rest =>
    let body := if rest.head? = some '^' then rest.drop 1 else rest
    let name := body.takeWhile (· != ':')
    if (body.drop name.length).take 2 = [':', ']'] ∧ classNames.contains (String.ofList name) then
      some (true, body.drop (name.length + 2))
    else some (false, cs)
  | _ => some (false, cs)

/-- The beginning of a class behind its bracket: a caret, and characters that stand for themselves here. -/
def beginClass : Scanner Unit := do
  let _ ← Scanner.skipIf '^'
  let hyphens ← Scanner.takeWhile (· == '-')
  if hyphens.isEmpty then
    let _ ← Scanner.skipIf ']'

/-- The rest of some classes, one inside the other, up to the bracket of the outermost. -/
def classes : Nat → Nat → Scanner Unit
  | 0, _ => Scanner.refuse
  | fuel + 1, depth => do
    match ← Scanner.rest with
    | ']' :: rest =>
      set rest
      if depth ≤ 1 then return else classes fuel (depth - 1)
    | '[' :: rest =>
      set rest
      if ← namedClass then classes fuel depth
      else
        beginClass
        classes fuel (depth + 1)
    | '&' :: '&' :: rest =>
      set rest
      classes fuel depth
    | '-' :: '-' :: rest =>
      set rest
      classes fuel depth
    | '~' :: '~' :: rest =>
      set rest
      classes fuel depth
    | _ =>
      let first ← classChar
      match ← Scanner.rest with
      | '-' :: c :: rest =>
        if c = ']' ∨ c = '-' then classes fuel depth
        else
          set (c :: rest)
          let last ← classChar
          if last < first then Scanner.refuse else classes fuel depth
      | _ => classes fuel depth

/-- Letters that switch a mode. -/
def isModeLetter (c : Char) : Bool :=
  "imsUuRx".toList.contains c

/-- Modes, each named once, perhaps with a hyphen in front of those that are switched off. -/
def areModes (cs : List Char) : Bool :=
  cs.all (fun c => c == '-' || isModeLetter c) && cs.eraseDups.length == cs.length
    && cs.getLast? != some '-' && !(cs.takeWhile (· != '-')).contains 'i'

/-- The name of a group. -/
def isGroupName : List Char → Bool
  | [] => false
  | c :: rest =>
    (c == '_' || (Text.isAlphanumeric c && !c.isDigit))
      && rest.all fun d => "_.[]".toList.contains d || Text.isAlphanumeric d

/-- How a group begins behind its parenthesis. -/
inductive Opening where
  | group (name : Option (List Char))
  /-- No group, but modes for what follows. -/
  | modes

def opening : Scanner Opening := do
  if !(← Scanner.skipIf '?') then return .group none
  if (← Scanner.skipText "P<") || (← Scanner.skipIf '<') then
    let name ← Scanner.takeWhile (· != '>')
    Scanner.expect '>'
    if isGroupName name then return .group (some name) else Scanner.refuse
  else
    let modes ← Scanner.takeWhile fun c => c != ':' && c != ')'
    if !areModes modes then Scanner.refuse
    match ← Scanner.next with
    | ':' => return .group none
    | _ => if modes.isEmpty then Scanner.refuse else return .modes

/--
The rest of an expression inside some groups with the given names; what stands in front of it may or may
not be repeated.
-/
def expression : Nat → List (List Char) → Nat → Bool → Scanner Unit
  | 0, _, _, _ => Scanner.refuse
  | fuel + 1, names, depth, repeatable => do
    match ← Scanner.rest with
    | [] => if depth = 0 then return else Scanner.refuse
    | c :: rest =>
      set rest
      match c with
      | '(' =>
        match ← opening with
        | .group name =>
          if name.any names.contains then Scanner.refuse
          else expression fuel (name.toList ++ names) (depth + 1) false
        | .modes => expression fuel names depth false
      | ')' => if depth = 0 then Scanner.refuse else expression fuel names (depth - 1) true
      | '|' => expression fuel names depth false
      | '[' =>
        beginClass
        classes rest.length 1
        expression fuel names depth true
      | '\\' =>
        let _ ← escape
        expression fuel names depth true
      | '\x7b' => Scanner.refuse
      | _ =>
        if c = '*' ∨ c = '+' ∨ c = '?' then
          if !repeatable then Scanner.refuse
          let _ ← Scanner.skipIf '?'
        expression fuel names depth true

/-- Whether a text without braces is a regular expression. -/
def isExpression (cs : List Char) : Bool :=
  (Scanner.runAll (expression (cs.length + 1) [] 0 false) cs).isSome

end QueryCriteria.Regular
