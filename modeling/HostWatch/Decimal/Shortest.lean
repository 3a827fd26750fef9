/-
The fewest digits that read back: of all decimals in the interval that
rounds to a double, one with the least number of digits, and of those the
one nearest to the double.

The search looks at the grids of one, two, … seventeen digits. If a point
of a grid lies in the interval, so does one of the two neighbours of the
value on that grid, so that testing these two is enough.
-/
import HostWatch.Decimal.Binary

namespace HostWatch.Decimal

/-- A decimal number `digits · 10 ^ exponent`. -/
structure Scientific where
  digits : Nat
  exponent : Int
deriving DecidableEq, Repr

/-- How many decimal digits a whole number has. -/
def digitCount (n : Nat) : Nat := (Nat.toDigits 10 n).length

/-- The `p` with `10 ^ (p - 1) ≤ num / den < 10 ^ p`, for a positive quotient. -/
def magnitude (num den : Nat) : Int :=
  if den ≤ num then digitCount (num / den)
  else 1 - (digitCount ((den + num - 1) / num - 1) : Int)

/-- The reals that round to `significand · 2 ^ exponent`, in units of a quarter of its last bit. -/
structure Interval where
  low : Nat
  high : Nat
  closed : Bool

/-- The interval of a significand: half a unit each way, but less below a power of two. -/
def Interval.around (significand : Nat) (exponent : Int) : Interval where
  low := 4 * significand - (if significand = twoTo 52 ∧ -1074 < exponent then 1 else 2)
  high := 4 * significand + 2
  closed := significand % 2 == 0

/-- Whether `digits · 10 ^ k` lies in the interval of `significand · 2 ^ exponent`. -/
def Interval.holds (i : Interval) (exponent k : Int) (digits : Nat) : Bool :=
  let low := unscaleTen (scaleTwo i.low (exponent - 2)) k
  let high := unscaleTen (scaleTwo i.high (exponent - 2)) k
  if i.closed then low.1 ≤ digits * low.2 && digits * high.2 ≤ high.1
  else low.1 < digits * low.2 && digits * high.2 < high.1

/-- The neighbour of the value on the grid of `n` digits that rounds to it, if one does. -/
def onGrid? (tie : Tie) (significand : Nat) (exponent : Int) (n : Nat) : Option Scientific :=
  let value := scaleTwo significand exponent
  let k := magnitude value.1 value.2 - n
  let scaled := unscaleTen value k
  let below := scaled.1 / scaled.2
  let holds := (Interval.around significand exponent).holds exponent k
  match holds below, holds (below + 1) with
  | true, true => some ⟨roundDiv tie scaled.1 scaled.2, k⟩
  | true, false => some ⟨below, k⟩
  | false, true => some ⟨below + 1, k⟩
  | false, false => none

/-- The shortest decimal that reads back as a positive `significand · 2 ^ exponent`. -/
def shortest (tie : Tie) (significand : Nat) (exponent : Int) : Scientific :=
  ((List.range 17).findSome? fun i => onGrid? tie significand exponent (i + 1)).getD
    ⟨significand, exponent⟩

/-- The same number with a last digit that is not zero. -/
def Scientific.trimZeros (s : Scientific) : Scientific :=
  let text := (Nat.toDigits 10 s.digits).reverse
  let zeros := (text.takeWhile (· == '0')).length
  ⟨s.digits / tenTo zeros, s.exponent + zeros⟩

end HostWatch.Decimal
