/-
Doubles as stored data writes them: with the fewest digits that read back
and always with a mark of being a double, a point or an exponent.
-/
import HostWatch.Decimal.Plain

namespace HostWatch.Decimal

/-- A decimal with one digit before the point and an exponent. -/
def Scientific.withExponent (s : Scientific) : List Char :=
  let text := Nat.toDigits 10 s.digits
  let power := s.exponent + text.length - 1
  let mantissa := match text with
    | [] => []
    | [c] => [c]
    | c :: rest => c :: '.' :: rest
  mantissa ++ 'e' :: (toString power).toList

/--
A finite double: positional from `10 ^ -5` below `10 ^ 16`, elsewhere with an exponent; of two
decimals that are equally near, the even one.
-/
def storedText (x : Float) : String :=
  match Binary.ofFloat x with
  | .nan | .infinite _ => "null"
  | .finite negative m e =>
    let text :=
      if m = 0 then ['0', '.', '0']
      else
        let s := (shortest .toEven m e).trimZeros
        let power := s.exponent + digitCount s.digits
        if power ≤ -5 ∨ 16 < power then s.withExponent
        else if 0 ≤ s.exponent then s.plain ++ ['.', '0']
        else s.plain
    String.ofList (if negative then '-' :: text else text)

end HostWatch.Decimal
