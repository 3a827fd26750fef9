/-
The size of a pattern, by which patterns are refused that would take too
much memory.

It is the size of a machine that follows the pattern byte by byte: a state
for each byte, a branch for each choice, and copies of all that is
repeated. A set of characters is followed along the ranges of bytes that
their encodings consist of, where equal beginnings are shared.
-/
import HostWatch.Pattern

namespace HostWatch.Pattern

open Text (CodeSet)

-- ==================================================== sets

/-- The ranges of each byte of some encodings. -/
abbrev ByteRanges := List (Nat × Nat)

/--
The byte ranges of the code points whose bits are those from `low` to `high`, where a byte that
begins with `mark` is followed by `count` others.
-/
private def byteRanges (mark : Nat) : Nat → Nat → Nat → List ByteRanges
  | 0, low, high => [[(mark + low, mark + high)]]
  | count + 1, low, high =>
    let unit := 1 <<< (6 * (count + 1))
    let first := low / unit
    let last := high / unit
    let behind (lead low high : Nat) : List ByteRanges :=
      (byteRanges 0x80 count low high).map ((mark + lead, mark + lead) :: ·)
    if first = last then behind first (low % unit) (high % unit)
    else
      let startsWhole := low % unit = 0
      let endsWhole := high % unit = unit - 1
      let head := if startsWhole then [] else behind first (low % unit) (unit - 1)
      let tail := if endsWhole then [] else behind last 0 (high % unit)
      let first := if startsWhole then first else first + 1
      let last := if endsWhole then last else last - 1
      let middle : List ByteRanges :=
        if last < first then []
        else [(mark + first, mark + last) :: List.replicate (count + 1) (0x80, 0xBF)]
      head ++ middle ++ tail

/-- The code points with encodings of one to four bytes: the bounds, and the mark of the lead. -/
private def encodings : List (Nat × Nat × Nat × Nat) :=
  [(0, 0x7F, 0, 0), (0x80, 0x7FF, 1, 0xC0), (0x800, 0xD7FF, 2, 0xE0), (0xE000, 0xFFFF, 2, 0xE0),
    (0x10000, CodeSet.last, 3, 0xF0)]

/-- The byte ranges of a set, in order. -/
def byteRangesOf (codes : CodeSet) : List ByteRanges :=
  codes.runs.flatMap fun (low, high) =>
    encodings.flatMap fun (first, last, count, mark) =>
      let low := Nat.max low first
      let high := Nat.min high last
      if high < low then [] else byteRanges mark count low high

/-- How long the beginnings of two lists are equal. -/
private def sharedLength : ByteRanges → ByteRanges → Nat
  | a :: as, b :: bs => if a = b then sharedLength as bs + 1 else 0
  | _, _ => 0

/-- How many ranges are left when each list shares its beginning with the one before it. -/
private def countUnshared (before : ByteRanges) : List ByteRanges → Nat
  | [] => 0
  | ranges :: rest => (ranges.length - sharedLength before ranges) + countUnshared ranges rest

/-- The size of a state. -/
def stateSize : Nat := 32

/-- The size of a set. -/
def sizeOfSet (codes : CodeSet) : Nat :=
  if codes.runs.all fun (_, high) => high < 0x80 then
    match codes.runs with
    | [(low, high)] => if low = high then stateSize else 2 * stateSize + 8
    | runs => 2 * stateSize + 8 * runs.length
  else
    match byteRangesOf codes with
    | [ranges] =>
      if ranges.all fun (low, high) => low = high then stateSize * ranges.length
      else 2 * stateSize + 4 + stateSize * ranges.length
    | all => 2 * stateSize + 4 * all.length + stateSize * countUnshared [] all

-- ==================================================== patterns

/-- The size of a state that leads to two others. -/
private def branchSize : Nat := stateSize + 8

/-- The size of an alternative, where those of a choice in it join the ones around it. -/
private def alternativeSize (p : Pattern) (size : Nat) : Nat :=
  match p with
  | either _ _ => size - 2 * stateSize
  | _ => size + 4

/-- The size of a pattern. -/
def size : Pattern → Nat
  | empty | assertion _ => stateSize
  | one codes => sizeOfSet codes
  | sequence a b => a.size + b.size
  | either a b => 2 * stateSize + alternativeSize a a.size + alternativeSize b b.size
  | repeated p min none =>
    if min = 0 ∧ !p.takesInput then p.size + 2 * branchSize + stateSize
    else Nat.max min 1 * p.size + branchSize
  | repeated p min (some max) =>
    let required := if min = 0 ∧ max ≠ 1 then stateSize else min * p.size
    if max ≤ min then required
    else required + stateSize + (max - min) * (p.size + branchSize)
  | captured p => p.size + 2 * stateSize

/-- The size that a pattern may have. -/
def sizeLimit : Nat := 10485760

/-- Whether a pattern is small enough, with the start and the end that every machine has. -/
def isSmall (p : Pattern) : Bool := p.size + 4 * stateSize ≤ sizeLimit

end HostWatch.Pattern
