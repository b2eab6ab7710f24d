import QueryCriteria.Decimal.Numeral

/-!
Floating-point numbers of JSON texts. A number is read with one or two roundings after that of its
leading digits: it is near the written value, and not always the double nearest to it.
-/
namespace QueryCriteria.Json

/-- Digits appended to a number as long as it fits 64 bits, and the digits that are left over. -/
def appendDigits (n : Nat) : List Char → Nat × List Char
  | [] => (n, [])
  | c :: rest =>
    let longer := 10 * n + (c.toNat - '0'.toNat)
    if longer < 2 ^ 64 then appendDigits longer rest else (n, c :: rest)

/-- The largest exponent of a power of ten that is finite as a double. -/
def greatestExponent : Nat := 308

/-- The double nearest to a power of ten. -/
def powerOfTen (n : Nat) : Binary64 :=
  .ofDecimal false 1 n

/--
The double nearest to a number, times or divided by the doubles nearest to powers of ten; `none` if that
is infinite. Exponents below those of two powers leave nothing.
-/
def scale? (n : Nat) (exponent : Int) : Option Binary64 :=
  let x := Binary64.ofRatio false n 1
  if n = 0 then some x
  else if exponent > greatestExponent then none
  else if 0 ≤ exponent then
    let product := x.mul (powerOfTen exponent.toNat)
    if product.isFinite then some product else none
  else if -greatestExponent ≤ exponent then some (x.div (powerOfTen (-exponent).toNat))
  else if -(2 * greatestExponent) ≤ exponent then
    some ((x.div (powerOfTen greatestExponent)).div (powerOfTen (-exponent - greatestExponent).toNat))
  else some (.ofMagnitude false 0)

/-- The exponent that is written behind the mark; none is zero. -/
def writtenExponent (numeral : Decimal.Numeral) : Int :=
  let magnitude := (Decimal.natOfDigits? numeral.exponentDigits).getD 0
  match numeral.exponent with
  | some (some '-', _) => -(magnitude : Int)
  | _ => magnitude

/--
The double for a numeral all of whose parts are digits; `none` if it is too large. Digits of the whole
part that do not fit raise the exponent; those of the fraction are dropped.
-/
def approximate? (numeral : Decimal.Numeral) : Option Binary64 :=
  let fraction := numeral.fraction.getD []
  let (whole, wholeLeft) := appendDigits 0 numeral.whole
  let (n, fractionLeft) := appendDigits whole fraction
  let point : Int := wholeLeft.length - (fraction.length - fractionLeft.length : Nat)
  (scale? n (point + writtenExponent numeral)).map fun x => if numeral.negative then x.neg else x

end QueryCriteria.Json
