/-!
Double-precision numbers as bit patterns. Comparison is on the bits: for patterns other than NaN
the unsigned magnitude orders like the absolute value, and a sign turns the order around.
Rounding to a double is exact integer arithmetic, to nearest with ties to even.
-/
namespace QueryCriteria

-- Powers are those of the core library, also where an algebraic structure has its own.
attribute [default_instance 20000] instPowNat

/-- A double-precision number, given by its 64 bits. Two patterns are equal only if all bits are. -/
structure Binary64 where
  bits : UInt64
deriving DecidableEq, Repr, Inhabited

namespace Binary64

/-- Whether the sign bit is set. -/
def negative (x : Binary64) : Bool :=
  2 ^ 63 ≤ x.bits.toNat

/-- The bits without the sign. -/
def magnitude (x : Binary64) : Nat :=
  x.bits.toNat % 2 ^ 63

/-- The magnitude of the infinities; those of the NaNs are above it. -/
def infinityMagnitude : Nat := 0x7FF0000000000000

def isNaN (x : Binary64) : Bool :=
  infinityMagnitude < x.magnitude

def isInfinite (x : Binary64) : Bool :=
  x.magnitude == infinityMagnitude

/-- Neither NaN nor an infinity. -/
def isFinite (x : Binary64) : Bool :=
  x.magnitude < infinityMagnitude

/-- A pattern from a sign and a magnitude below two to the 63. -/
def ofMagnitude (negative : Bool) (magnitude : Nat) : Binary64 :=
  ⟨UInt64.ofNat (if negative then 2 ^ 63 + magnitude else magnitude)⟩

def nan : Binary64 := ⟨0x7FF8000000000000⟩

def infinity (negative : Bool) : Binary64 :=
  ofMagnitude negative infinityMagnitude

/-- A key that orders the patterns other than NaN by value; the two zeros share the key 0. -/
def orderKey (x : Binary64) : Int :=
  if x.negative then -(x.magnitude : Int) else x.magnitude

/-- The order of two values; NaN has none, not even with itself. -/
def compare? (x y : Binary64) : Option Ordering :=
  if x.isNaN || y.isNaN then none else some (compare x.orderKey y.orderKey)

/-- Equality of values: NaN differs from itself, and the two zeros are equal. -/
def sameValue (x y : Binary64) : Bool :=
  x.compare? y == some .eq

/-- The integer significand and the binary exponent of a finite value without its sign. -/
def parts (x : Binary64) : Nat × Int :=
  let exponent : Nat := x.magnitude / 2 ^ 52
  let fraction : Nat := x.magnitude % 2 ^ 52
  if exponent == 0 then (fraction, -1074) else (2 ^ 52 + fraction, (exponent : Int) - 1075)

/-- The integer nearest to a quotient; a tie goes to the even neighbour. -/
def roundDiv (num den : Nat) : Nat :=
  let quotient := num / den
  match compare (2 * (num % den)) den with
  | .lt => quotient
  | .gt => quotient + 1
  | .eq => if quotient % 2 == 0 then quotient else quotient + 1

/-- The power of a base; an exponent below zero counts as zero. -/
def power (base : Nat) (exponent : Int) : Nat :=
  Nat.pow base exponent.toNat

/-- `num * 2 ^ (-q)` over `den`, as a quotient of naturals. -/
def scaled (num den : Nat) (q : Int) : Nat × Nat :=
  (num * power 2 (-q), den * power 2 q)

/-- The exponent of the last place kept when `num / den` is rounded to 53 bits. -/
def lastPlace (num den : Nat) : Int :=
  let guess := max (-1074) ((num.log2 : Int) - den.log2 - 53)
  let (n, d) := scaled num den guess
  if n / d < 2 ^ 53 then guess else guess + 1

/--
The double nearest to `num / den`, ties to even; infinity when the rounded value is too large.
A significand rounded up to two to the 53 carries into the exponent by itself.
-/
def ofRatio (negative : Bool) (num den : Nat) : Binary64 :=
  if num == 0 then ofMagnitude negative 0
  else
    let q := lastPlace num den
    let (n, d) := scaled num den q
    let magnitude := (q + 1074).toNat * 2 ^ 52 + roundDiv n d
    ofMagnitude negative (min magnitude infinityMagnitude)

/-- A finite value without its sign, as a quotient of naturals. -/
def ratio (x : Binary64) : Nat × Nat :=
  let (significand, exponent) := x.parts
  (significand * power 2 exponent, power 2 (-exponent))

/-- The double nearest to the product of two finite values. -/
def mul (x y : Binary64) : Binary64 :=
  ofRatio (x.negative != y.negative) (x.ratio.1 * y.ratio.1) (x.ratio.2 * y.ratio.2)

/-- The double nearest to the quotient of two finite values, of which the second is not zero. -/
def div (x y : Binary64) : Binary64 :=
  ofRatio (x.negative != y.negative) (x.ratio.1 * y.ratio.2) (x.ratio.2 * y.ratio.1)

/-- The value with its sign turned around. -/
def neg (x : Binary64) : Binary64 :=
  ofMagnitude (!x.negative) x.magnitude

/-- The double nearest to an integer. -/
def ofInt (n : Int) : Binary64 :=
  ofRatio (n < 0) n.natAbs 1

/-- Decimal digits of a natural number, without a leading zero. -/
def digitCount (n : Nat) : Nat :=
  (Nat.toDigits 10 n).length

/--
The double nearest to `digits * 10 ^ exponent`. Exponents far outside the range of doubles are
answered without computing the power of ten.
-/
def ofDecimal (negative : Bool) (digits : Nat) (exponent : Int) : Binary64 :=
  let top := exponent + digitCount digits
  if digits == 0 || top < -330 then ofMagnitude negative 0
  else if 310 < top then infinity negative
  else ofRatio negative (digits * power 10 exponent) (power 10 (-exponent))

end Binary64

end QueryCriteria
