/-
Whole numbers in decimal notation: a sign where one is allowed, at least
one ASCII digit, leading zeros as one likes, and a range outside which
the text is no number.
-/

namespace HostWatch.Decimal

/-- The value of an ASCII digit. -/
def digit? (c : Char) : Option Nat :=
  if '0' ≤ c ∧ c ≤ '9' then some (c.toNat - '0'.toNat) else none

/-- The number that digits continue, after `acc` has been read. -/
def readFrom? (acc : Nat) : List Char → Option Nat
  | [] => some acc
  | c :: rest => (digit? c).bind fun d => readFrom? (acc * 10 + d) rest

/-- The number that one or more ASCII digits denote. -/
def readDigits? (s : List Char) : Option Nat :=
  if s.isEmpty then none else readFrom? 0 s

/-- A number from 0 to `max`, with an optional plus sign. -/
def readUnsigned? (max : Nat) (s : List Char) : Option Nat :=
  let digits := match s with
    | '+' :: rest => rest
    | _ => s
  (readDigits? digits).filter (· ≤ max)

/-- A number with an optional sign. -/
def readInteger? (s : List Char) : Option Int :=
  match s with
  | '+' :: rest => (readDigits? rest).map fun n => (n : Int)
  | '-' :: rest => (readDigits? rest).map fun n => -(n : Int)
  | _ => (readDigits? s).map fun n => (n : Int)

/-- A number from `min` to `max`, with an optional sign. -/
def readSigned? (min max : Int) (s : List Char) : Option Int :=
  (readInteger? s).filter fun n => min ≤ n && n ≤ max

/-- A number of 8 bits. -/
def readByte? : List Char → Option Nat := readUnsigned? 255

/-- A number of 16 bits. -/
def readWord? : List Char → Option Nat := readUnsigned? 65535

/-- The largest number of 64 bits. -/
def maxUnsigned64 : Nat := 18446744073709551615

/-- The smallest and the largest signed number of 64 bits. -/
def minSigned64 : Int := -9223372036854775808

/-- The largest signed number of 64 bits. -/
def maxSigned64 : Int := 9223372036854775807

/-- A number of 64 bits. -/
def readUnsigned64? : List Char → Option Nat := readUnsigned? maxUnsigned64

/-- A signed number of 64 bits. -/
def readSigned64? : List Char → Option Int := readSigned? minSigned64 maxSigned64

/-- A number with at least `width` digits. -/
def padded (width n : Nat) : String :=
  let digits := toString n
  String.ofList (List.replicate (width - digits.length) '0') ++ digits

end HostWatch.Decimal
