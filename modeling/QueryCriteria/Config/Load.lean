import QueryCriteria.Config.Basic
import QueryCriteria.Config.Word
import QueryCriteria.Text.Split
import QueryCriteria.Toml.Parser

/-!
Loading a configuration from three layers: the defaults, a TOML file, and variables of the
environment. Tables are merged field by field; otherwise a later layer replaces an earlier one.
-/
namespace QueryCriteria.Config

/-- What the names of variables begin with, in any case. -/
def variableStart : String := "acton_"

/-- A text with a point for every two underscores. -/
def pointLevels : List Char → List Char
  | [] => []
  | '_' :: '_' :: rest => '.' :: pointLevels rest
  | c :: rest => c :: pointLevels rest

/--
The path of the setting that a variable names, in lower case; its parts are not empty. Blanks at the
ends of the name and of the path do not count.
-/
def variablePath? (name : String) : Option (List String) :=
  let cs := Decimal.lowerChars (Text.trimChars name.toList)
  if variableStart.toList.isPrefixOf cs then
    let levels := Text.trimChars (pointLevels (cs.drop variableStart.length))
    let path := (Text.splitChars '.' levels).map String.ofList
    if path.contains "" then none else some path
  else none

/-- The settings of variables; later ones replace earlier ones. -/
def ofVariables (entries : List (String × String)) : Setting :=
  entries.foldl (fun settings entry =>
    match variablePath? entry.1 with
    | some path => settings.merge (Setting.nest path (.ofWord entry.2))
    | none => settings) (.table [])

/-- The configuration in layers above the defaults, the lowest first. -/
def ofLayers? (layers : List Setting) : Option Config :=
  read .ignored (layers.foldl Setting.merge (.ofJson default.toJson))

/-- The configuration of the environment alone. -/
def ofEnvironment? (entries : List (String × String)) : Option Config :=
  ofLayers? [ofVariables entries]

/-- The configuration of a file, which may be missing, and of the environment. -/
def load? (file : Option String) (entries : List (String × String)) : Option Config := do
  let settings ← match file with
    | some text => Toml.parse? text
    | none => some (.table [])
  ofLayers? [settings, ofVariables entries]

end QueryCriteria.Config
