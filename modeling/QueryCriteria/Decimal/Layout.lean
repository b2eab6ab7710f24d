import QueryCriteria.Decimal.Shortest

/-! How a double is written: one record holds the decisions of an output layout. -/
namespace QueryCriteria.Decimal

/-- The decisions of a number layout. -/
structure Layout where
  /-- Decimal exponents of the leading digit that are written without an exponent part. -/
  positional : Int → Bool
  /-- Whether an integral value ends in `.0`. -/
  pointZero : Bool
  /-- Where a tie between equally short decimals goes. -/
  tie : Tie

private def zeros (n : Nat) : String :=
  String.ofList (List.replicate n '0')

/-- Digits with the point `places` digits from the right, or with zeros appended. -/
def plain (pointZero : Bool) (digits : String) (exponent : Int) : String :=
  if 0 ≤ exponent then digits ++ zeros exponent.toNat ++ (if pointZero then ".0" else "")
  else
    let places := (-exponent).toNat
    if places < digits.length then
      let whole := digits.length - places
      String.ofList (digits.toList.take whole) ++ "." ++ String.ofList (digits.toList.drop whole)
    else "0." ++ zeros (places - digits.length) ++ digits

/-- One digit before the point and a signed exponent: `1e+16`, `1.5e-7`. -/
def scientific (digits : String) (exponent : Int) : String :=
  let leading := exponent + (digits.length - 1 : Nat)
  let mantissa := match digits.toList with
    | [] => ""
    | [d] => String.singleton d
    | d :: rest => String.singleton d ++ "." ++ String.ofList rest
  mantissa ++ "e" ++ (if leading < 0 then "-" else "+") ++ toString leading.natAbs

/-- A finite double in a layout; the sign bit shows also on zero. -/
def Layout.render (layout : Layout) (x : Binary64) : String :=
  let d := shortest layout.tie x
  let digits := toString d.digits
  let leading := d.exponent + (digits.length - 1 : Nat)
  let text :=
    if layout.positional leading then plain layout.pointZero digits d.exponent
    else scientific digits d.exponent
  if x.negative then "-" ++ text else text

end QueryCriteria.Decimal
