import QueryCriteria.Decimal.Binary64

/-!
The fewest decimal digits that read back to a double. For one, two, … digits the two neighbours of
the value on that decimal grid are tested against the interval of reals that round to it.
-/
namespace QueryCriteria.Decimal

/-- The number `digits * 10 ^ exponent`. -/
structure Scaled where
  digits : Nat
  exponent : Int
deriving DecidableEq, Repr

/-- Where an exact tie between two equally short decimals goes. -/
inductive Tie where
  | toEven
  | up
deriving DecidableEq, Repr

/-- Compares `a * 10 ^ i` with `n * 2 ^ j`. -/
def compareScaled (a : Nat) (i : Int) (n : Nat) (j : Int) : Ordering :=
  compare (a * Binary64.power 10 i * Binary64.power 2 (-j))
    (n * Binary64.power 2 j * Binary64.power 10 (-i))

/--
Whether a decimal lies among the reals that round to a finite positive double: between the middles
to its two neighbours, ends included exactly when the significand is even. Below a power of two
the neighbour is half as far away.
-/
def readsBack (x : Binary64) (d : Scaled) : Bool :=
  let (m, q) := x.parts
  let narrow := m == 2 ^ 52 && q != -1074
  let low := if narrow then 4 * m - 1 else 4 * m - 2
  let atEnds := m % 2 == 0
  let fromLow := compareScaled d.digits d.exponent low (q - 2)
  let fromHigh := compareScaled d.digits d.exponent (4 * m + 2) (q - 2)
  (fromLow == .gt || (atEnds && fromLow == .eq)) && (fromHigh == .lt || (atEnds && fromHigh == .eq))

/-- The least `k` with `m * 2 ^ q < 10 ^ k`, from an estimate that is at most two off. -/
def scale (m : Nat) (q : Int) : Int :=
  let estimate := ((m.log2 : Int) + q) * 30103 / 100000 - 1
  let below (k : Int) : Bool := compareScaled 1 k m q == .gt
  if below estimate then estimate
  else if below (estimate + 1) then estimate + 1
  else if below (estimate + 2) then estimate + 2
  else estimate + 3

/-- The better of the two neighbours of a double on the grid `10 ^ exponent`, if one reads back. -/
def onGrid (tie : Tie) (x : Binary64) (exponent : Int) : Option Scaled :=
  let (m, q) := x.parts
  let num := m * Binary64.power 2 q * Binary64.power 10 (-exponent)
  let den := Binary64.power 2 (-q) * Binary64.power 10 exponent
  let low : Scaled := ⟨num / den, exponent⟩
  let high : Scaled := ⟨num / den + 1, exponent⟩
  match readsBack x low, readsBack x high with
  | false, false => none
  | true, false => some low
  | false, true => some high
  | true, true =>
    match compare (2 * (num % den)) den with
    | .lt => some low
    | .gt => some high
    | .eq =>
      match tie with
      | .up => some high
      | .toEven => some (if low.digits % 2 == 0 then low else high)

/-- Moves factors of ten from the digits into the exponent, at most `steps` of them. -/
def strip : Nat → Scaled → Scaled
  | 0, d => d
  | steps + 1, d => if d.digits % 10 == 0 then strip steps ⟨d.digits / 10, d.exponent + 1⟩ else d

/--
The shortest decimal that reads back to a finite double, of those the nearest. Zero has the digit 0.
Seventeen digits always suffice; the exact value of the double stands behind them.
-/
def shortest (tie : Tie) (x : Binary64) : Scaled :=
  let (m, q) := x.parts
  if m == 0 then ⟨0, 0⟩
  else
    let k := scale m q
    match (List.range 17).findSome? fun n => onGrid tie x (k - (n + 1 : Nat)) with
    | some d => strip 17 d
    | none => ⟨m * Binary64.power 2 q * Binary64.power 5 (-q), min q 0⟩

end QueryCriteria.Decimal
