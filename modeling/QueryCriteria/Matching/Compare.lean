import QueryCriteria.Criteria.Order
import QueryCriteria.Json.Basic

/-!
Comparing JSON values and records. Integers of the signed range compare exactly; when one of two
numbers lies outside it, both compare as doubles.
-/
namespace QueryCriteria

namespace Json

namespace Number

/-- The number as a signed 64-bit integer, if it is one. -/
def int64? : Number → Option Int64
  | .integer n => n.toInt64?
  | .float _ _ => none

/-- The nearest double. -/
def toBinary64 : Number → Binary64
  | .integer n => .ofInt n.val
  | .float x _ => x

/-- The order of two numbers. -/
def compare? (a b : Number) : Option Ordering :=
  match a.int64?, b.int64? with
  | some m, some n => some (compare m.toInt n.toInt)
  | _, _ => a.toBinary64.compare? b.toBinary64

end Number

/-- The order of two texts, character by character. -/
def compareTexts (s t : String) : Ordering :=
  if s < t then .lt else if s = t then .eq else .gt

/--
The order of two values of one kind; false is below true, and null equals null. Arrays and objects
have no order, and neither have values of different kinds.
-/
def compare? : Json → Json → Option Ordering
  | .null, .null => some .eq
  | .number a, .number b => a.compare? b
  | .text s, .text t => some (compareTexts s t)
  | .bool a, .bool b => some (compare a.toNat b.toNat)
  | _, _ => none

/-- The place of a kind among all kinds. -/
def rank : Json → Nat
  | .null => 0
  | .bool _ => 1
  | .number _ => 2
  | .text _ => 3
  | .array _ => 4
  | .object _ => 5

/-- Values that do not compare are ordered by their kinds. -/
def sortOrder (a b : Json) : Ordering :=
  (a.compare? b).getD (compare a.rank b.rank)

end Json

namespace Record

/-- Follows a path of names into nested objects; null where it ends early. -/
def follow : List String → Json → Json
  | [], value => value
  | name :: path, value =>
    match value.field? name with
    | some inner => follow path inner
    | none => .null

/--
The value of an attribute: that of the field with the whole name, or else the one at the end of the
path that the name spells with points. A missing attribute is null.
-/
def resolve (record : Record) (field : String) : Json :=
  match Entries.get? record field with
  | some value => value
  | none => follow (Text.split '.' field) (.object record)

/-- Compares by the sort fields, the most important first. -/
def compareBy (left right : Record) : List FieldName → Ordering
  | [] => .eq
  | field :: rest =>
    (Json.sortOrder (resolve left field.text) (resolve right field.text)).then
      (compareBy left right rest)

/-- The place of one record relative to another in an order. -/
def compareIn (order : Order) (left right : Record) : Ordering :=
  match order.type with
  | .none => .eq
  | .asc => compareBy left right order.fields
  | .desc => (compareBy left right order.fields).swap

/-- Puts a record behind the last one that is not after it; the records are listed last first. -/
def insertSorted (order : Order) (record : Record) : List Record → List Record
  | [] => [record]
  | last :: before =>
    if compareIn order record last = .lt then last :: insertSorted order record before
    else record :: last :: before

/--
Sorts records by inserting one after the other; those that compare equal keep their places. Where the
comparison is transitive on the records, every stable sort gives this list.
-/
def sort (order : Order) (records : List Record) : List Record :=
  (records.foldl (fun sorted record => insertSorted order record sorted) []).reverse

/-- Of three of the records, the first is not after the third if the second stands between them. -/
def Transitive (order : Order) (records : List Record) : Prop :=
  ∀ a ∈ records, ∀ b ∈ records, ∀ c ∈ records,
    compareIn order a b ≠ .gt → compareIn order b c ≠ .gt → compareIn order a c ≠ .gt

instance (order : Order) (records : List Record) : Decidable (Transitive order records) :=
  inferInstanceAs (Decidable (∀ a ∈ records, ∀ b ∈ records, ∀ c ∈ records,
    compareIn order a b ≠ .gt → compareIn order b c ≠ .gt → compareIn order a c ≠ .gt))

/-- So many records are sorted by insertion alone, which no contradiction stops. -/
def insertionLimit : Nat := 20

/--
Sorts records, or crashes: a sort of more records may do so where the comparison contradicts itself on
them, and this one always does.
-/
def sort? (order : Order) (records : List Record) : Option (List Record) :=
  if records.length ≤ insertionLimit ∨ Transitive order records then some (sort order records)
  else none

end Record

end QueryCriteria
