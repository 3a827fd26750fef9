/-
A double taken apart into what its bits say: a sign, a whole significand
and a power of two, or one of the values that are no number.
-/

namespace HostWatch.Decimal

/-- The power `2 ^ n`. -/
def twoTo (n : Nat) : Nat := Nat.pow 2 n

/-- The power `10 ^ n`. -/
def tenTo (n : Nat) : Nat := Nat.pow 10 n

/-- What the bits of a double denote. -/
inductive Binary where
  /-- Not a number. -/
  | nan
  /-- An infinity. -/
  | infinite (negative : Bool)
  /-- The number `± significand · 2 ^ exponent`. -/
  | finite (negative : Bool) (significand : Nat) (exponent : Int)
deriving DecidableEq, Repr

/-- What a double denotes. -/
def Binary.ofFloat (x : Float) : Binary :=
  let bits := x.toBits.toNat
  let negative := decide (twoTo 63 ≤ bits)
  let biased : Nat := bits / twoTo 52 % twoTo 11
  let fraction : Nat := bits % twoTo 52
  if biased = 2047 then
    if fraction = 0 then .infinite negative else .nan
  else if biased = 0 then .finite negative fraction (-1074)
  else .finite negative (fraction + twoTo 52) ((biased : Int) - 1075)

/-- `num · 2 ^ e` as a quotient of whole numbers. -/
def scaleTwo (num : Nat) (e : Int) : Nat × Nat :=
  if 0 ≤ e then (num * twoTo e.toNat, 1) else (num, twoTo (-e).toNat)

/-- A quotient divided by `10 ^ k`. -/
def unscaleTen (quotient : Nat × Nat) (k : Int) : Nat × Nat :=
  if 0 ≤ k then (quotient.1, quotient.2 * tenTo k.toNat)
  else (quotient.1 * tenTo (-k).toNat, quotient.2)

/-- Which way a value half-way between two neighbours goes. -/
inductive Tie where
  /-- To the larger one. -/
  | up
  /-- To the even one. -/
  | toEven
deriving DecidableEq, Repr

/-- The whole number nearest to `num / den`. -/
def roundDiv (tie : Tie) (num den : Nat) : Nat :=
  let q := num / den
  let twice := 2 * (num % den)
  if twice < den then q
  else if twice = den ∧ tie = .toEven ∧ q % 2 = 0 then q
  else q + 1

end HostWatch.Decimal
