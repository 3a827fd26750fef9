/-
Doubles as the sixteen hexadecimal digits of their bits, for where a
decimal text would not tell two of them apart.
-/

namespace HostWatch.Decimal

/-- The value of a hexadecimal digit; other characters count as 0. -/
def hexValue (c : Char) : Nat :=
  if '0' ≤ c ∧ c ≤ '9' then c.toNat - '0'.toNat
  else if 'a' ≤ c ∧ c ≤ 'f' then c.toNat - 'a'.toNat + 10
  else if 'A' ≤ c ∧ c ≤ 'F' then c.toNat - 'A'.toNat + 10
  else 0

/-- The number that hexadecimal digits denote. -/
def readHex (s : List Char) : Nat := s.foldl (fun n c => n * 16 + hexValue c) 0

/-- The bytes that pairs of hexadecimal digits denote. -/
def readHexBytes : List Char → List UInt8
  | a :: b :: rest => (hexValue a * 16 + hexValue b).toUInt8 :: readHexBytes rest
  | _ => []

/-- The double with some bits. -/
def ofBitsText (s : String) : Float := Float.ofBits (readHex s.toList).toUInt64

/-- The bits of a double; all doubles that are no numbers have the same text. -/
def bitsText (x : Float) : String :=
  if x.isNaN then "nan"
  else
    let digits := Nat.toDigits 16 x.toBits.toNat
    String.ofList (List.replicate (16 - digits.length) '0' ++ digits)

end HostWatch.Decimal
