import QueryCriteria.Decimal.Binary64

/-! Decimal numerals in text: how one splits into parts, what it is worth, and two grammars. -/
namespace QueryCriteria.Decimal

/-- The value of a list of decimal digits; `none` if another character is among them. -/
def natOfDigits? (cs : List Char) : Option Nat :=
  cs.foldlM (fun n c => if c.isDigit then some (10 * n + (c.toNat - '0'.toNat)) else none) 0

/-- The value of a letter or digit as a digit of a large base. -/
def digitValue? (c : Char) : Option Nat :=
  if c.isDigit then some (c.toNat - '0'.toNat)
  else if c.isLower then some (c.toNat - 'a'.toNat + 10)
  else if c.isUpper then some (c.toNat - 'A'.toNat + 10)
  else none

/-- The value of a list of digits of a base. -/
def natInBase? (base : Nat) (cs : List Char) : Option Nat :=
  cs.foldlM (fun n c => do
    let digit ← digitValue? c
    if digit < base then some (base * n + digit) else none) 0

/-- A sign in front of a text, and the text behind it. -/
def takeSign : List Char → Option Char × List Char
  | '+' :: rest => (some '+', rest)
  | '-' :: rest => (some '-', rest)
  | cs => (none, cs)

/-- The parts of a numeral as they stand in the text, not yet checked to be digits. -/
structure Numeral where
  sign : Option Char
  whole : List Char
  /-- What follows the point, if there is one. -/
  fraction : Option (List Char)
  /-- Sign and digits behind the exponent mark, if there is one. -/
  exponent : Option (Option Char × List Char)

namespace Numeral

/-- Splits at the exponent mark and at the point. -/
def ofChars (cs : List Char) : Numeral :=
  let (sign, body) := takeSign cs
  let isMark (c : Char) := c == 'e' || c == 'E'
  let mantissa := body.takeWhile (!isMark ·)
  { sign
    whole := mantissa.takeWhile (· != '.')
    fraction := match mantissa.dropWhile (· != '.') with
      | [] => none
      | _ :: digits => some digits
    exponent := match body.dropWhile (!isMark ·) with
      | [] => none
      | _ :: rest => some (takeSign rest) }

def negative (n : Numeral) : Bool :=
  n.sign == some '-'

def exponentDigits (n : Numeral) : List Char :=
  (n.exponent.map (·.2)).getD []

/-- Neither point nor exponent. -/
def isIntegral (n : Numeral) : Bool :=
  n.fraction.isNone && n.exponent.isNone

/-- The double nearest to the numeral; `none` if a part holds another character than digits. -/
def toBinary64? (n : Numeral) : Option Binary64 := do
  let fraction := n.fraction.getD []
  let digits ← natOfDigits? (n.whole ++ fraction)
  let magnitude ← natOfDigits? n.exponentDigits
  let exponent : Int := match n.exponent with
    | some (some '-', _) => -(magnitude : Int)
    | _ => magnitude
  some (Binary64.ofDecimal n.negative digits (exponent - fraction.length))

/-- No part that is announced is empty: digits follow the point and the exponent mark. -/
def partsNonempty (n : Numeral) : Bool :=
  !n.whole.isEmpty && n.fraction.all (!·.isEmpty) && n.exponent.all (!·.2.isEmpty)

/-- Digits on one side of the point are enough; the exponent, if announced, has some. -/
def someDigits (n : Numeral) : Bool :=
  !(n.whole.isEmpty && (n.fraction.getD []).isEmpty) && n.exponent.all (!·.2.isEmpty)

end Numeral

/-- Lower-case ASCII letters for upper-case ones. -/
def lowerChars (cs : List Char) : List Char :=
  cs.map Char.toLower

/-- An optional sign and at least one digit. -/
def readInteger? (cs : List Char) : Option Int :=
  let (sign, digits) := takeSign cs
  if digits.isEmpty then none
  else (natOfDigits? digits).map fun n => if sign == some '-' then -(n : Int) else n

/--
A number with an optional sign, a point with digits on at least one side and an optional exponent,
or a spelling of infinity or NaN in any case. Values too large for a double become infinite.
-/
def readFloat? (cs : List Char) : Option Binary64 :=
  let (sign, body) := takeSign cs
  let word := String.ofList (lowerChars body)
  if word == "inf" || word == "infinity" then some (.infinity (sign == some '-'))
  else if word == "nan" then some .nan
  else
    let numeral := Numeral.ofChars cs
    if numeral.someDigits then numeral.toBinary64? else none

end QueryCriteria.Decimal
