import QueryCriteria.Json.Basic

/-!
Reading records with known fields out of trees of values, JSON and others. Values are not converted:
a text is no integer, and a number with a point is none either.
-/
namespace QueryCriteria

/-- Trees of values: what is needed to look into one. -/
class ValueTree (σ : Type) where
  isNull : σ → Bool
  fields? : σ → Option (Entries σ)
  items? : σ → Option (List σ)

instance : ValueTree Json where
  isNull := Json.isNull
  fields? := Json.object?
  items?
    | .array items => some items
    | _ => none

/-- How a tree is read as a value of a type, if it can be. -/
abbrev Reader (σ α : Type) := σ → Option α

namespace Reader

variable {σ α : Type} [ValueTree σ]

/-- Any tree; only its absence is null. -/
def any : Reader σ σ := some

/-- Null for an absent value, else the given reading. -/
def optional (read : Reader σ α) : Reader σ (Option α) := fun value =>
  if ValueTree.isNull value then some none else (read value).map some

def list (read : Reader σ α) : Reader σ (List α) := fun value => do
  (← ValueTree.items? value).mapM read

/-- A present value as read, an absent one by its default. -/
def orElse (default : Option α) (read : Reader σ α) : Option σ → Option α
  | none => default
  | some value => read value

/-- What becomes of items of a list behind the last part of a record. -/
inductive Surplus where
  /-- There may be none. -/
  | refused
  | ignored
deriving DecidableEq

/--
The parts of a record, found under their names among fields, or at their places in a list, which may
end early.
-/
def parts (surplus : Surplus) (names : List String) (value : σ) : Option (List (Option σ)) :=
  match ValueTree.fields? value, ValueTree.items? value with
  | some fields, _ => some (names.map (Entries.get? fields))
  | none, some items =>
    if items.length ≤ names.length ∨ surplus = .ignored then
      some ((List.range names.length).map fun i => items[i]?)
    else none
  | none, none => none

end Reader

end QueryCriteria
