/-
Decimal numbers as programs print them: with a fixed number of digits
behind the point, or with one digit in front of it and an exponent. What
is cut off is rounded, from halfway to the even digit.
-/
import HostWatch.Decimal.Plain
import HostWatch.Programs.Escape
import HostWatch.Text.Blank

namespace HostWatch

/-- A number that is not negative but for its sign: a fraction. -/
structure Numeral where
  numerator : Nat
  denominator : Nat := 1
  isNegative : Bool := false
deriving DecidableEq, Repr

namespace Numeral

/-- How many bits of a number programs keep. -/
def precision : Nat := 64

/-- The largest exponent that is kept as it is. -/
def maxExponent : Nat := 5000

/-- `digits * 10 ^ exponent` with as many bits as programs keep. -/
def ofDecimal (digits : Nat) (exponent : Int) (isNegative : Bool) : Numeral :=
  let exponent : Int := max (-maxExponent) (min maxExponent exponent)
  let a := digits * Decimal.tenTo exponent.toNat
  let b := Decimal.tenTo (-exponent).toNat
  let excess : Int := (a.log2 : Int) - b.log2 - precision
  let fits := a <<< (-excess).toNat < b <<< (precision + excess.toNat)
  let shift : Int := if fits then excess else excess + 1
  let kept := Decimal.roundDiv .toEven (a <<< (-shift).toNat) (b <<< shift.toNat)
  if a = 0 then { numerator := 0, isNegative }
  else { numerator := kept <<< shift.toNat, denominator := 1 <<< (-shift).toNat, isNegative }

/-- The number at the start of a text, and what follows. -/
def read (s : List Char) : Numeral × List Char :=
  let (isNegative, body) : Bool × List Char := match s with
    | '-' :: rest => (true, rest)
    | '+' :: rest => (false, rest)
    | _ => (false, s)
  let whole := body.takeWhile Char.isDigit
  let afterWhole := body.drop whole.length
  let (fraction, afterFraction) : List Char × List Char := match afterWhole with
    | '.' :: rest =>
      let fraction := rest.takeWhile Char.isDigit
      if whole.isEmpty && fraction.isEmpty then ([], afterWhole)
      else (fraction, rest.drop fraction.length)
    | _ => ([], afterWhole)
  if whole.isEmpty && fraction.isEmpty then ({ numerator := 0 }, s)
  else
    let (exponent, rest) : Int × List Char := match afterFraction with
      | e :: more =>
        let (sign, more) : Int × List Char := match more with
          | '-' :: more => (-1, more)
          | '+' :: more => (1, more)
          | _ => (1, more)
        let digits := more.takeWhile Char.isDigit
        if (e == 'e' || e == 'E') && !digits.isEmpty then
          (sign * Escape.number 10 digits, more.drop digits.length)
        else (0, afterFraction)
      | [] => (0, [])
    (ofDecimal (Escape.number 10 (whole ++ fraction)) (exponent - fraction.length) isNegative,
      rest)

/-- The number times `10 ^ shift`, rounded. -/
private def scaled (x : Numeral) (shift : Int) : Nat :=
  Decimal.roundDiv .toEven (x.numerator * Decimal.tenTo shift.toNat)
    (x.denominator * Decimal.tenTo (-shift).toNat)

/-- The number with `places` digits behind the point. -/
def fixed (x : Numeral) (places : Nat) : List Char :=
  Decimal.withPoint (x.scaled places) places

/-- The digits of a number of which one stands in front of the point, and the power of ten. -/
private def normalized (x : Numeral) (places : Nat) : Nat × Int :=
  if x.numerator = 0 then (0, 0)
  else
    let excess : Int := ((toString x.numerator).length : Int) - (toString x.denominator).length
    let isBelow :=
      x.numerator * Decimal.tenTo (-excess).toNat < x.denominator * Decimal.tenTo excess.toNat
    let power := if isBelow then excess - 1 else excess
    let n := x.scaled (places - power)
    if Decimal.tenTo (places + 1) ≤ n then (n / 10, power + 1) else (n, power)

/-- The number with one digit in front of the point, `places` behind it, and an exponent. -/
def scientific (x : Numeral) (places : Nat) : List Char :=
  let (n, power) := x.normalized places
  Decimal.withPoint n places ++ ['e', if power < 0 then '-' else '+'] ++
    (Decimal.padded 2 power.natAbs).toList

/-- Digits without zeros at the end of a fraction. -/
private def trimmed (s : List Char) : List Char :=
  if s.contains '.' then Text.dropEndWhile (· == '.') (Text.dropEndWhile (· == '0') s) else s

/-- The number with `count` digits that count, in the form that is shorter. -/
def general (x : Numeral) (count : Nat) (keepsZeros : Bool) : List Char :=
  let count := max count 1
  let trimmed := if keepsZeros then id else trimmed
  let (_, power) := x.normalized (count - 1)
  if -4 ≤ power ∧ power < count then trimmed (x.fixed (count - 1 - power).toNat)
  else
    let written := x.scientific (count - 1)
    let mantissa := written.takeWhile (· != 'e')
    trimmed mantissa ++ written.drop mantissa.length

end Numeral

end HostWatch
