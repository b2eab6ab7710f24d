/-!
Spans of time, counted in nanoseconds. They saturate at the largest span that 64 bits of seconds and
a rest below a second can hold.
-/
namespace QueryCriteria

/-- A span of time. -/
structure Duration where
  nanos : Nat
  bounded : nanos < 2 ^ 64 * 1000000000
deriving DecidableEq

namespace Duration

/-- The longest span. -/
def longest : Nat := 2 ^ 64 * 1000000000 - 1

/-- A span of so many nanoseconds, or the longest one. -/
def ofNanos (n : Nat) : Duration :=
  ⟨min n longest, by simp only [longest]; omega⟩

def zero : Duration := ofNanos 0

def ofMillis (n : UInt64) : Duration :=
  ofNanos (n.toNat * 1000000)

def ofSeconds (n : UInt64) : Duration :=
  ofNanos (n.toNat * 1000000000)

/-- Whole seconds. -/
def seconds (d : Duration) : Nat :=
  d.nanos / 1000000000

/-- The rest below a second, in nanoseconds. -/
def subsecond (d : Duration) : Nat :=
  d.nanos % 1000000000

/-- A multiple of a span, or the longest one. -/
def scale (d : Duration) (k : Nat) : Duration :=
  ofNanos (d.nanos * k)

/-- Milliseconds, a part of one counting as a whole one. -/
def millisUp (d : Duration) : Nat :=
  (d.nanos + 999999) / 1000000

/-- Digits of a fraction of `10 ^ width`, without zeros at its end. -/
private def fractionText (width n : Nat) : String :=
  let digits := Nat.toDigits 10 n
  let padded := List.replicate (width - digits.length) '0' ++ digits
  let kept := (padded.reverse.dropWhile (· == '0')).reverse
  if n == 0 then "" else "." ++ String.ofList kept

/-- The text of a span, in the largest unit that does not make it a mere fraction. -/
def display (d : Duration) : String :=
  let rest := d.subsecond
  if 0 < d.seconds then toString d.seconds ++ fractionText 9 rest ++ "s"
  else if 1000000 ≤ rest then
    toString (rest / 1000000) ++ fractionText 6 (rest % 1000000) ++ "ms"
  else if 1000 ≤ rest then toString (rest / 1000) ++ fractionText 3 (rest % 1000) ++ "µs"
  else toString rest ++ "ns"

end Duration

end QueryCriteria
