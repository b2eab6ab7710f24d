import QueryCriteria.Config.Setting

/-!
Tables of a TOML document while it is read. A table may be defined once only: by a header, or by
dotted keys within one section; one that was merely implied by a longer header may still be defined by
a header of its own.
-/
namespace QueryCriteria.Toml

/-- How a table came to be. -/
inductive Origin where
  | header
  /-- It stands on the path of a header. -/
  | implied
  /-- It stands on the path of a dotted key. -/
  | dotted
deriving DecidableEq

inductive Node where
  | value (setting : Setting)
  | table (origin : Origin) (fields : List (String × Node))
  /-- Tables with one name, the latest at the end. -/
  | tables (items : List (List (String × Node)))
deriving Inhabited

abbrev Fields := List (String × Node)

namespace Fields

/-- Changes the table at a path; tables that are missing on the way are made. -/
def alter (whenMissing : Origin) (change : Origin → Fields → Option Fields) :
    List String → Origin → Fields → Option Fields
  | [], origin, fields => change origin fields
  | name :: path, _, fields =>
    match Entries.get? fields name with
    | none => do
      let inner ← alter whenMissing change path whenMissing []
      return Entries.insert fields name (.table whenMissing inner)
    | some (.value _) => none
    | some (.table origin inner) =>
      if whenMissing = .dotted ∧ origin = .header then none
      else do return Entries.insert fields name (.table origin (← alter whenMissing change path origin inner))
    | some (.tables items) => do
      let last ← alter whenMissing change path .header (items.getLast?.getD [])
      return Entries.insert fields name (.tables (items.dropLast ++ [last]))

/-- Puts a value under a dotted key. Only tables that dotted keys made are extended by them. -/
def put (path : List String) (name : String) (setting : Setting) (fields : Fields) : Option Fields :=
  alter .dotted
    (fun origin fields =>
      if (origin = .dotted) = (path = []) ∨ (Entries.get? fields name).isSome then none
      else some (Entries.insert fields name (.value setting)))
    path .header fields

/-- Begins a table under a header. -/
def beginTable (path : List String) (name : String) (fields : Fields) : Option Fields :=
  alter .implied
    (fun _ fields =>
      match Entries.get? fields name with
      | none => some (Entries.insert fields name (.table .header []))
      | some (.table .implied inner) => some (Entries.insert fields name (.table .header inner))
      | some _ => none)
    path .header fields

/-- Begins one more table of those under a header. -/
def beginItem (path : List String) (name : String) (fields : Fields) : Option Fields :=
  alter .implied
    (fun _ fields =>
      match Entries.get? fields name with
      | none => some (Entries.insert fields name (.tables [[]]))
      | some (.tables items) => some (Entries.insert fields name (.tables (items ++ [[]])))
      | some _ => none)
    path .header fields

/-- Puts a value into the table under a header. -/
def putBelow (header : List String) (path : List String) (name : String) (setting : Setting)
    (fields : Fields) : Option Fields :=
  alter .implied (fun _ fields => fields.put path name setting) header .header fields

end Fields

mutual

def Node.setting : Node → Setting
  | .value setting => setting
  | .table _ fields => .table (Fields.settings fields)
  | .tables items => .list (Fields.settingsOfAll items)

def Fields.settings : List (String × Node) → List (String × Setting)
  | [] => []
  | (name, node) :: rest => (name, Node.setting node) :: Fields.settings rest

def Fields.settingsOfAll : List (List (String × Node)) → List Setting
  | [] => []
  | fields :: rest => .table (Fields.settings fields) :: Fields.settingsOfAll rest

end

end QueryCriteria.Toml
