/-
Numbers with a fraction, read from decimal notation to the nearest double.

The grammar has an optional sign, digits with at most one point among
them or at one of their ends, and an optional exponent; at least one digit
stands beside the point. Infinity and the not-a-number are written as words
in any case.
-/
import HostWatch.Decimal.Integer
import HostWatch.Text.Letter

namespace HostWatch.Decimal

/-- `digits · 10 ^ exponent` as the nearest double; `count` is how many digits were written. -/
def nearest (digits : Nat) (exponent : Int) (count : Nat) : Float :=
  if digits = 0 then 0.0
  else if 400 < exponent + count then Float.ofBits 0x7FF0000000000000
  else if exponent + count < -400 then 0.0
  else if 0 ≤ exponent then Float.ofScientific digits false exponent.toNat
  else Float.ofScientific digits true (-exponent).toNat

/-- The ASCII digits at the start of a text and what follows them. -/
def spanDigits (s : List Char) : List Char × List Char :=
  s.span fun c => (digit? c).isSome

/-- The exponent part: nothing, or the letter `e`, an optional sign and digits. -/
def readExponent? : List Char → Option Int
  | [] => some 0
  | c :: rest =>
    if c = 'e' ∨ c = 'E' then
      match rest with
      | '+' :: digits => (readDigits? digits).map fun n => (n : Int)
      | '-' :: digits => (readDigits? digits).map fun n => -(n : Int)
      | digits => (readDigits? digits).map fun n => (n : Int)
    else none

/-- A number without its sign. -/
def readMagnitude? (s : List Char) : Option Float :=
  let (whole, rest) := spanDigits s
  let (fraction, tail) := match rest with
    | '.' :: more => spanDigits more
    | _ => ([], rest)
  if whole.isEmpty && fraction.isEmpty then none
  else do
    let digits ← readFrom? 0 (whole ++ fraction)
    let exponent ← readExponent? tail
    let significant := (whole ++ fraction).dropWhile (· == '0')
    pure (nearest digits (exponent - fraction.length) significant.length)

/-- A number or a word without its sign. -/
def readUnsignedFloat? (s : List Char) : Option Float :=
  let word := String.ofList (Text.lower s)
  if word = "nan" then some (Float.ofBits 0x7FF8000000000000)
  else if word = "inf" ∨ word = "infinity" then some (Float.ofBits 0x7FF0000000000000)
  else readMagnitude? s

/-- The double that a text denotes. -/
def readFloat? (s : List Char) : Option Float :=
  match s with
  | '+' :: rest => readUnsignedFloat? rest
  | '-' :: rest => (readUnsignedFloat? rest).map fun x => -x
  | _ => readUnsignedFloat? s

end HostWatch.Decimal
