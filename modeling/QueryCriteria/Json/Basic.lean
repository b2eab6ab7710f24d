import QueryCriteria.Decimal.Layout
import QueryCriteria.Entries

/-!
JSON values. Integers and floating-point numbers are different numbers: `1` and `1.0` are not equal.
Integers fit 64 bits, signed or unsigned; floating-point numbers are finite.
-/
namespace QueryCriteria

/-- An integer that fits 64 bits, signed or unsigned. -/
structure WideInt where
  val : Int
  lower : -2 ^ 63 ≤ val
  upper : val < 2 ^ 64
deriving DecidableEq

namespace WideInt

/-- The integer as a wide one, if it fits. -/
def ofInt? (n : Int) : Option WideInt :=
  if h : -2 ^ 63 ≤ n ∧ n < 2 ^ 64 then some ⟨n, h.1, h.2⟩ else none

def ofInt64 (n : Int64) : WideInt :=
  ⟨n.toInt, Int64.le_toInt n, by have := Int64.toInt_lt n; omega⟩

def ofUInt64 (n : UInt64) : WideInt :=
  ⟨n.toNat, by omega, by have := n.toNat_lt; omega⟩

/-- The integer as a signed 64-bit one, if it fits. -/
def toInt64? (n : WideInt) : Option Int64 :=
  if n.val < 2 ^ 63 then some (Int64.ofInt n.val) else none

theorem toInt64?_ofInt64 (n : Int64) : (ofInt64 n).toInt64? = some n := by
  have hfits : (ofInt64 n).val < 2 ^ 63 := Int64.toInt_lt n
  rw [toInt64?, if_pos hfits, ofInt64, Int64.ofInt_toInt]

/-- The integer as a natural number below a bound, if it is one. -/
def toNatBelow? (bound : Nat) (n : WideInt) : Option Nat :=
  if 0 ≤ n.val ∧ n.val < bound then some n.val.toNat else none

end WideInt

namespace Json

/-- A JSON number. -/
inductive Number where
  | integer (n : WideInt)
  | float (x : Binary64) (finite : x.isFinite = true)
deriving DecidableEq

/-- Floating-point numbers show a point or an exponent, and an exponent from 1e16 up and below 1e-5. -/
def floatLayout : Decimal.Layout where
  positional exponent := -5 ≤ exponent && exponent < 16
  pointZero := true
  tie := .toEven

/-- The text of a number, as JSON shows it and as an identifier shows it. -/
def Number.render : Number → String
  | .integer n => toString n.val
  | .float x _ => floatLayout.render x

end Json

/-- A JSON value. The fields of an object stand in ascending order of their names. -/
inductive Json where
  | null
  | bool (b : Bool)
  | number (n : Json.Number)
  | text (s : String)
  | array (items : List Json)
  | object (fields : List (String × Json))
deriving Inhabited

/-- A stored record: the fields of a JSON object. -/
abbrev Record := Entries Json

namespace Json

def ofInt64 (n : Int64) : Json :=
  .number (.integer (.ofInt64 n))

def ofUInt64 (n : UInt64) : Json :=
  .number (.integer (.ofUInt64 n))

/-- A natural number below two to the 32. -/
def ofUInt32 (n : UInt32) : Json :=
  ofUInt64 n.toUInt64

/-- A floating-point number; those that are not finite have no JSON form and become null. -/
def ofBinary64 (x : Binary64) : Json :=
  if h : x.isFinite = true then .number (.float x h) else .null

def ofOption {α : Type} (f : α → Json) : Option α → Json
  | none => .null
  | some a => f a

def isNull : Json → Bool
  | .null => true
  | _ => false

theorem isNull_iff {value : Json} : value.isNull = true ↔ value = .null := by
  cases value <;> simp [isNull]

theorem isNull_of_ne {value : Json} (h : value ≠ .null) : value.isNull = false :=
  Bool.eq_false_iff.mpr (mt isNull_iff.mp h)

def text? : Json → Option String
  | .text s => some s
  | _ => none

def object? : Json → Option Record
  | .object fields => some fields
  | _ => none

/-- A field of an object; a value of another kind has no fields. -/
def field? (name : String) : Json → Option Json
  | .object fields => Entries.get? fields name
  | _ => none

/-- A natural number below a bound, given as an integer. -/
def natBelow? (bound : Nat) : Json → Option Nat
  | .number (.integer n) => n.toNatBelow? bound
  | _ => none

def uint64? (value : Json) : Option UInt64 :=
  (value.natBelow? (2 ^ 64)).map UInt64.ofNat

def uint32? (value : Json) : Option UInt32 :=
  (value.natBelow? (2 ^ 32)).map UInt32.ofNat

/-- A signed 64-bit integer, given as an integer. -/
def int64? : Json → Option Int64
  | .number (.integer n) => n.toInt64?
  | _ => none

/-- The kind of a value with its article, for error texts. -/
def kind : Json → String
  | .null => "null"
  | .bool _ => "a boolean"
  | .number _ => "a number"
  | .text _ => "a string"
  | .array _ => "an array"
  | .object _ => "an object"

end Json

end QueryCriteria
