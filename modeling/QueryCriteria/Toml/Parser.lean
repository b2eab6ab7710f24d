import QueryCriteria.Toml.Document
import QueryCriteria.Toml.Lines
import QueryCriteria.Toml.Scalar

/-! Reading TOML documents as trees of settings. -/
namespace QueryCriteria.Toml

def isKeyChar (c : Char) : Bool :=
  c.isAlphanum || c == '_' || c == '-'

/-- A key without dots: bare, or between quotes. -/
def simpleKey : Scanner String := do
  match ← Scanner.peek with
  | some '"' => Quoted.scan
  | some '\'' => literalText
  | _ =>
    let name ← Scanner.takeWhile isKeyChar
    if name.isEmpty then Scanner.refuse else return String.ofList name

/-- The parts of a key, which may be dotted; blanks may stand around the dots. -/
def keyParts : Nat → Scanner (List String)
  | 0 => Scanner.refuse
  | fuel + 1 => do
    blanks
    let part ← simpleKey
    blanks
    if ← Scanner.skipIf '.' then return part :: (← keyParts fuel) else return [part]

/-- Lists and tables on one line nest less deep than this, and keys have fewer parts. -/
def depthLimit : Nat := 80

/-- A dotted key, as the path to a table and a name in it. -/
def key (fuel : Nat) : Scanner (List String × String) := do
  let parts ← keyParts fuel
  if depthLimit ≤ parts.length then Scanner.refuse
  return (parts.dropLast, ← Scanner.lift parts.getLast?)

def isWordChar (c : Char) : Bool :=
  c.isAlphanum || c == '_' || c == '+' || c == '-' || c == '.' || c == ':'

/-- A value that is a single word; between a date and a time one blank may stand. -/
def word : Scanner Setting := do
  let first ← Scanner.takeWhile isWordChar
  match ← Scanner.rest with
  | ' ' :: c :: rest =>
    if isDate first && c.isDigit then
      set (c :: rest)
      Scanner.lift (scalar? (first ++ ' ' :: (← Scanner.takeWhile isWordChar)))
    else Scanner.lift (scalar? first)
  | _ => Scanner.lift (scalar? first)

mutual

/-- A value inside some lists and tables. -/
def value : Nat → Nat → Scanner Setting
  | 0, _ => Scanner.refuse
  | fuel + 1, depth => do
    if ← Scanner.skipText "\"\"\"" then return .text (← longText '"')
    if ← Scanner.skipText "'''" then return .text (← longText '\'')
    match ← Scanner.peek with
    | some '"' => return .text (← Quoted.scan)
    | some '\'' => return .text (← literalText)
    | some '[' =>
      let _ ← Scanner.next
      if depthLimit ≤ depth + 1 then Scanner.refuse
      return .list (← items fuel (depth + 1))
    | some '\x7b' =>
      let _ ← Scanner.next
      if depthLimit ≤ depth + 1 then Scanner.refuse
      blanks
      if ← Scanner.skipIf '\x7d' then return .table []
      return .table (Fields.settings (← inlineFields fuel (depth + 1) []))
    | _ => word

/-- The values of a list up to its bracket; a comma may stand behind the last one. -/
def items : Nat → Nat → Scanner (List Setting)
  | 0, _ => Scanner.refuse
  | fuel + 1, depth => do
    gap
    if ← Scanner.skipIf ']' then return []
    let first ← value fuel depth
    gap
    if ← Scanner.skipIf ',' then return first :: (← items fuel depth)
    Scanner.expect ']'
    return [first]

/-- The fields of a table on one line, up to its brace. -/
def inlineFields : Nat → Nat → Fields → Scanner Fields
  | 0, _, _ => Scanner.refuse
  | fuel + 1, depth, fields => do
    let (path, name) ← key fuel
    Scanner.expect '='
    blanks
    let setting ← value fuel depth
    blanks
    let fields ← Scanner.lift (fields.put path name setting)
    if ← Scanner.skipIf ',' then return ← inlineFields fuel depth fields
    Scanner.expect '\x7d'
    return fields

end

/-- One line: a header, or a key with its value. The state is the path of the last header. -/
def line (fuel : Nat) (header : List String) (fields : Fields) : Scanner (List String × Fields) := do
  if ← Scanner.skipText "[[" then
    let (path, name) ← key fuel
    Scanner.expect ']'
    Scanner.expect ']'
    lineEnd
    return (path ++ [name], ← Scanner.lift (fields.beginItem path name))
  if ← Scanner.skipIf '[' then
    let (path, name) ← key fuel
    Scanner.expect ']'
    lineEnd
    return (path ++ [name], ← Scanner.lift (fields.beginTable path name))
  let (path, name) ← key fuel
  Scanner.expect '='
  blanks
  let setting ← value fuel 0
  lineEnd
  return (header, ← Scanner.lift (fields.putBelow header path name setting))

def lines : Nat → List String → Fields → Scanner Fields
  | 0, _, _ => Scanner.refuse
  | fuel + 1, header, fields => do
    gap
    if (← Scanner.rest).isEmpty then return fields
    let (header, fields) ← line fuel header fields
    lines fuel header fields

/-- The settings in a document; a mark of the byte order may stand in front of it. -/
def parse? (s : String) : Option Setting :=
  let cs := if s.toList.head? == some '\ufeff' then s.toList.drop 1 else s.toList
  (Scanner.runAll (lines (2 * cs.length + 4) [] []) cs).map fun fields =>
    .table (Fields.settings fields)

end QueryCriteria.Toml
