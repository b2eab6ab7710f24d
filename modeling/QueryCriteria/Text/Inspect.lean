import QueryCriteria.Json.Basic
import QueryCriteria.Text.Hidden
import QueryCriteria.Text.Split

/-!
Values as they are shown to programmers: texts between quotes with everything invisible escaped, and
JSON values with the names of their kinds.
-/
namespace QueryCriteria.Inspect

/-- How a character stands between quotes. -/
def escapeChar (c : Char) : List Char :=
  if c == '"' then ['\\', '"']
  else if c == '\\' then ['\\', '\\']
  else if c == '\n' then ['\\', 'n']
  else if c == '\r' then ['\\', 'r']
  else if c == '\t' then ['\\', 't']
  else if c.toNat == 0 then ['\\', '0']
  else if Text.isHidden c then "\\u\x7b".toList ++ Nat.toDigits 16 c.toNat ++ ['\x7d']
  else [c]

def text (s : String) : String :=
  "\"" ++ String.ofList (s.toList.flatMap escapeChar) ++ "\""

/-- Labelled parts behind a name. -/
def labelled (name : String) (parts : List (String × String)) : String :=
  name ++ " \x7b " ++ Text.join ", " (parts.map fun part => part.1 ++ ": " ++ part.2) ++ " \x7d"

def optional {α : Type} (inspect : α → String) : Option α → String
  | none => "None"
  | some a => "Some(" ++ inspect a ++ ")"

/-- A map whose values are already shown. -/
def entries (shown : List (String × String)) : String :=
  "\x7b" ++ Text.join ", " (shown.map fun entry => text entry.1 ++ ": " ++ entry.2) ++ "\x7d"

mutual

def json : Json → String
  | .null => "Null"
  | .bool b => "Bool(" ++ toString b ++ ")"
  | .number n => "Number(" ++ n.render ++ ")"
  | .text s => "String(" ++ text s ++ ")"
  | .array items => "Array [" ++ Text.join ", " (jsonItems items) ++ "]"
  | .object fields => "Object " ++ entries (jsonFields fields)

def jsonItems : List Json → List String
  | [] => []
  | item :: rest => json item :: jsonItems rest

def jsonFields : List (String × Json) → List (String × String)
  | [] => []
  | (name, value) :: rest => (name, json value) :: jsonFields rest

end

/-- A record, as the bare map of its fields. -/
def record (r : Record) : String :=
  entries (jsonFields r)

end QueryCriteria.Inspect
