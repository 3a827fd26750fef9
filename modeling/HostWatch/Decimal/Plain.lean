/-
Doubles in positional notation: with the fewest digits that read back, or
with a fixed number of places. Neither ever writes an exponent.
-/
import HostWatch.Decimal.Shortest

namespace HostWatch.Decimal

/-- `n` times the character `c`. -/
private def repeated (n : Nat) (c : Char) : List Char := List.replicate n c

/-- The digits of a whole number with a point before the last `places` of them. -/
def withPoint (digits places : Nat) : List Char :=
  if places = 0 then Nat.toDigits 10 digits
  else
    let text := Nat.toDigits 10 digits
    let padded := repeated (places + 1 - text.length) '0' ++ text
    padded.take (padded.length - places) ++ '.' :: padded.drop (padded.length - places)

/-- A decimal in positional notation. -/
def Scientific.plain (s : Scientific) : List Char :=
  if 0 ≤ s.exponent then Nat.toDigits 10 s.digits ++ repeated s.exponent.toNat '0'
  else withPoint s.digits (-s.exponent).toNat

/-- Whether the sign of a double is written. -/
private def signed (negative : Bool) (text : List Char) : String :=
  String.ofList (if negative then '-' :: text else text)

/--
A double with the fewest digits that read back, a tie between two of them going up; whole numbers
have no point, and the sign of a zero is kept.
-/
def plainText (x : Float) : String :=
  match Binary.ofFloat x with
  | .nan => "NaN"
  | .infinite negative => signed negative "inf".toList
  | .finite negative m e =>
    signed negative (if m = 0 then ['0'] else (shortest .up m e).trimZeros.plain)

/-- A double with exactly `places` decimal places, a tie going to the even neighbour. -/
def fixedText (places : Nat) (x : Float) : String :=
  match Binary.ofFloat x with
  | .nan => "NaN"
  | .infinite negative => signed negative "inf".toList
  | .finite negative m e =>
    let scaled := unscaleTen (scaleTwo m e) (-(places : Int))
    signed negative (withPoint (roundDiv .toEven scaled.1 scaled.2) places)

end HostWatch.Decimal
