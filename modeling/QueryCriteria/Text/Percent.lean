import QueryCriteria.Decimal.Numeral
import QueryCriteria.Text.Split

/-!
Bytes behind percent signs, each as two hexadecimal digits, and fields of a query, which are pairs of a
name and a value.
-/
namespace QueryCriteria.Percent

/-- The bytes of a character in UTF-8. -/
def bytesOf (c : Char) : List UInt8 :=
  (String.singleton c).toUTF8.toList

/-- The bytes that a text stands for. A percent sign without two digits behind it stands for itself. -/
def decode : List Char → List UInt8
  | [] => []
  | '%' :: a :: b :: rest =>
    match Decimal.natInBase? 16 [a, b] with
    | some n => UInt8.ofNat n :: decode rest
    | none => bytesOf '%' ++ decode (a :: b :: rest)
  | c :: rest => bytesOf c ++ decode rest

/-- The text with given bytes in UTF-8, if there is one. -/
def ofBytes? (bytes : List UInt8) : Option String :=
  String.fromUTF8? ⟨bytes.toArray⟩

/-- The text that a text with escapes stands for, if its bytes are UTF-8. -/
def decodeText? (s : String) : Option String :=
  ofBytes? (decode s.toList)

/-- The text with given bytes; if they are not UTF-8, a replacement stands for each that is not ASCII. -/
def textOf (bytes : List UInt8) : String :=
  (ofBytes? bytes).getD
    (String.ofList (bytes.map fun b => if b < 0x80 then Char.ofNat b.toNat else '\ufffd'))

/-- A name or a value in a query, where a plus sign stands for a space. -/
def decodeField (cs : List Char) : String :=
  textOf (decode (cs.map fun c => if c = '+' then ' ' else c))

/-- The fields of a query between ampersands, in order; a missing value is empty. -/
def fields (query : String) : List (String × String) :=
  ((Text.splitChars '&' query.toList).filter (· ≠ [])).map fun field =>
    let name := field.takeWhile (· != '=')
    (decodeField name, decodeField (field.drop (name.length + 1)))

end QueryCriteria.Percent
