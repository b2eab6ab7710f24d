import QueryCriteria.Json.Reader

/-! Trees of settings, as configuration files and variables hold them, and how layers are merged. -/
namespace QueryCriteria

/-- A setting. Integers and floats are different, and floats may be infinite. -/
inductive Setting where
  | null
  | bool (b : Bool)
  | integer (n : Int)
  /-- An integer that was written without a sign, where that makes a difference. -/
  | natural (n : Nat)
  | float (x : Binary64)
  | text (s : String)
  | list (items : List Setting)
  | table (fields : List (String × Setting))
deriving Inhabited

instance : ValueTree Setting where
  isNull
    | .null => true
    | _ => false
  fields?
    | .table fields => some fields
    | _ => none
  items?
    | .list items => some items
    | _ => none

namespace Setting

def bool? : Reader Setting Bool
  | .bool b => some b
  | _ => none

def text? : Reader Setting String
  | .text s => some s
  | _ => none

/-- An integer from zero up to a bound, which is itself excluded. -/
def natBelow? (bound : Nat) : Reader Setting Nat
  | .integer n => if 0 ≤ n ∧ n < bound then some n.toNat else none
  | .natural n => if n < bound then some n else none
  | _ => none

def uint64? : Reader Setting UInt64 := fun setting =>
  (setting.natBelow? (2 ^ 64)).map UInt64.ofNat

def uint32? : Reader Setting UInt32 := fun setting =>
  (setting.natBelow? (2 ^ 32)).map UInt32.ofNat

mutual

def ofJson : Json → Setting
  | .null => .null
  | .bool b => .bool b
  | .number (.integer n) => .integer n.val
  | .number (.float x _) => .float x
  | .text s => .text s
  | .array items => .list (ofJsonAll items)
  | .object fields => .table (ofJsonFields fields)

def ofJsonAll : List Json → List Setting
  | [] => []
  | item :: rest => ofJson item :: ofJsonAll rest

def ofJsonFields : List (String × Json) → List (String × Setting)
  | [] => []
  | (name, value) :: rest => (name, ofJson value) :: ofJsonFields rest

end

mutual

/-- The setting of the upper layer; of two tables, the fields of both, merged one by one. -/
def merge (lower : Setting) : Setting → Setting
  | .table upper =>
    match lower with
    | .table fields => .table (mergeFields fields upper)
    | _ => .table upper
  | upper => upper

def mergeFields (lower : List (String × Setting)) : List (String × Setting) → List (String × Setting)
  | [] => lower
  | (name, value) :: rest =>
    let merged := match Entries.get? lower name with
      | some old => merge old value
      | none => value
    mergeFields (Entries.insert lower name merged) rest

end

/-- A setting below a path of names. -/
def nest : List String → Setting → Setting
  | [], setting => setting
  | name :: path, setting => .table [(name, nest path setting)]

end Setting

end QueryCriteria
