import QueryCriteria.Config.Setting
import QueryCriteria.Text.Blank
import QueryCriteria.Text.Bytes
import QueryCriteria.Text.Quoted

/-!
Settings in the values of environment variables: truth values, numbers, quoted texts, and lists and
tables of these. What follows none of the forms is a text as it stands.
-/
namespace QueryCriteria.Setting

/-- The five ASCII blanks. -/
private def isAsciiBlank (c : Char) : Bool :=
  c == ' ' || c == '\t' || c == '\n' || c == '\x0c' || c == '\r'

/-- Characters that end an unquoted value. -/
def isSeparator (c : Char) : Bool :=
  c == ',' || c == '\x7b' || c == '\x7d' || c == '[' || c == ']'

/-- An unquoted value: with a point a number, or an integer of 64 bits, or else a text. -/
def ofBare (s : String) : Setting :=
  let cs := s.toList
  let float := if cs.contains '.' then (Decimal.readFloat? cs).map Setting.float else none
  let integer := (Decimal.readInteger? cs).bind fun n =>
    if 0 ≤ n ∧ n < 2 ^ 64 ∧ cs.head? ≠ some '-' then some (natural n.toNat)
    else if -2 ^ 63 ≤ n ∧ n ≤ 0 then some (Setting.integer n)
    else none
  (float.or integer).getD (.text s)

/--
The characters that a quoted text stands for. Of the part in front of the first backslash as many bytes
are kept as it has characters, which is all of it if they are ASCII.
-/
def unquote (cs : List Char) : Option (List Char) := do
  let front := cs.takeWhile (· != '\\')
  match cs.drop front.length with
  | [] => Quoted.unescape Quoted.isPlain cs
  | escaped =>
    if front.all Quoted.isPlain then
      return (← Text.takeBytes? front.length front) ++ (← Quoted.unescape Quoted.isPlain escaped)
    else none

/-- A text between double quotes. -/
def quotedText : Scanner String := do
  return String.ofList (← Scanner.lift (unquote (← Quoted.scanRaw)))

def fieldName : Scanner String := do
  if (← Scanner.peek) = some '"' then quotedText
  else
    let name ← Scanner.takeWhile fun c => c.isAlphanum || c == '_' || c == '-'
    if name.isEmpty then Scanner.refuse else return String.ofList name

mutual

def scan : Nat → Scanner Setting
  | 0 => Scanner.refuse
  | fuel + 1 => do
    Scanner.skipWhile isAsciiBlank
    let setting ← scanForm fuel
    Scanner.skipWhile isAsciiBlank
    return setting

def scanForm : Nat → Scanner Setting
  | 0 => Scanner.refuse
  | fuel + 1 => do
    if ← Scanner.skipText "true" then return .bool true
    if ← Scanner.skipText "false" then return .bool false
    match ← Scanner.peek with
    | some '\x7b' =>
      let _ ← Scanner.next
      return .table (← scanFields fuel [])
    | some '[' =>
      let _ ← Scanner.next
      return .list (← scanItems fuel)
    | some '"' => return .text (← quotedText)
    | some '\'' =>
      let _ ← Scanner.next
      let c ← Scanner.next
      Scanner.expect '\''
      return .text (String.singleton c)
    | _ =>
      let word ← Scanner.takeWhile (!isSeparator ·)
      return ofBare (Text.trim (String.ofList word))

/-- The fields of a table up to its brace. -/
def scanFields : Nat → Entries Setting → Scanner (Entries Setting)
  | 0, _ => Scanner.refuse
  | fuel + 1, fields => do
    if ← Scanner.skipIf '\x7d' then return fields
    Scanner.skipWhile isAsciiBlank
    let name ← fieldName
    Scanner.skipWhile isAsciiBlank
    Scanner.expect '='
    let setting ← scan fuel
    let fields := Entries.insert fields name setting
    if ← Scanner.skipIf ',' then scanFields fuel fields
    else
      Scanner.expect '\x7d'
      return fields

/-- The items of a list up to its bracket. -/
def scanItems : Nat → Scanner (List Setting)
  | 0 => Scanner.refuse
  | fuel + 1 => do
    if ← Scanner.skipIf ']' then return []
    let first ← scan fuel
    if ← Scanner.skipIf ',' then return first :: (← scanItems fuel)
    Scanner.expect ']'
    return [first]

end

/-- The setting in the value of a variable. -/
def ofWord (s : String) : Setting :=
  (Scanner.runAll (scan (3 * s.length + 3)) s.toList).getD (.text s)

end QueryCriteria.Setting
