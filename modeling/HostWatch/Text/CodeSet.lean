/-
Sets of code points, held as increasing runs that do not touch one
another.

Every operation leaves this form, and there is one form for each set: so
a set is empty exactly when it has no run, and `ofRuns` is the one place
where runs are put in order.
-/
import HostWatch.Text.Blank

namespace HostWatch.Text

/-- A set of code points: the first and the last one of each of its runs. -/
structure CodeSet where
  runs : List (Nat × Nat)
deriving DecidableEq, Repr

namespace CodeSet

/-- The largest code point. -/
def last : Nat := 0x10FFFF

/-- The set without elements. -/
def empty : CodeSet := ⟨[]⟩

instance : EmptyCollection CodeSet := ⟨empty⟩

instance : Inhabited CodeSet := ⟨empty⟩

/-- Whether a code point is in increasing runs. -/
def inRuns (n : Nat) : List (Nat × Nat) → Bool
  | [] => false
  | (low, high) :: rest => if n < low then false else n ≤ high || inRuns n rest

/-- Whether a code point is in a set. -/
def contains (s : CodeSet) (n : Nat) : Bool := inRuns n s.runs

/-- Whether a character is in a set. -/
def hasChar (s : CodeSet) (c : Char) : Bool := s.contains c.toNat

-- ==================================================== runs in order

/-- The runs that begin with `low` to `high`, those ordered ones joined that overlap or touch. -/
def coalesce (low high : Nat) : List (Nat × Nat) → List (Nat × Nat)
  | [] => [(low, high)]
  | (low', high') :: rest =>
    if low' ≤ high + 1 then coalesce low (Nat.max high high') rest
    else (low, high) :: coalesce low' high' rest

/-- The set of the elements of some runs, which may come in any order. -/
def ofRuns (runs : List (Nat × Nat)) : CodeSet :=
  match (runs.filter fun run => run.1 ≤ run.2).mergeSort fun a b => a.1 ≤ b.1 with
  | [] => ∅
  | (low, high) :: rest => ⟨coalesce low high rest⟩

/-- The code points from the first to the last. -/
def range (low high : Nat) : CodeSet := ofRuns [(low, high)]

/-- The set of one code point. -/
def single (n : Nat) : CodeSet := ⟨[(n, n)]⟩

/-- The set of one character. -/
def ofChar (c : Char) : CodeSet := single c.toNat

-- ==================================================== operations

/-- What lies between increasing runs, from `start` on. -/
def gaps (start : Nat) : List (Nat × Nat) → List (Nat × Nat)
  | [] => if start ≤ last then [(start, last)] else []
  | (low, high) :: rest =>
    if start < low then (start, low - 1) :: gaps (high + 1) rest else gaps (high + 1) rest

/-- The code points that are not in a set. -/
def complement (s : CodeSet) : CodeSet := ⟨gaps 0 s.runs⟩

/-- The code points in one set or the other. -/
def union (a b : CodeSet) : CodeSet := ofRuns (a.runs ++ b.runs)

/-- The code points in some set of a list. -/
def unionAll (sets : List CodeSet) : CodeSet := ofRuns (sets.flatMap (·.runs))

/-- The code points in both sets. -/
def intersection (a b : CodeSet) : CodeSet := (a.complement.union b.complement).complement

/-- The code points in the first set and not in the second. -/
def difference (a b : CodeSet) : CodeSet := (a.complement.union b).complement

/-- The code points in exactly one of two sets. -/
def symmetricDifference (a b : CodeSet) : CodeSet := (a.difference b).union (b.difference a)

/-- The code points at some distance from those of a set; what would lie below 0 counts as 0. -/
def shift (distance : Int) (s : CodeSet) : CodeSet :=
  ⟨s.runs.map fun (low, high) => ((low + distance).toNat, (high + distance).toNat)⟩

-- ==================================================== tables

/-- The number that hexadecimal digits denote; other characters count as 0. -/
private def hexNumber (digits : List Char) : Nat :=
  digits.foldl (fun n c =>
    n * 16 + if c.isDigit then c.toNat - '0'.toNat else c.toNat - 'A'.toNat + 10) 0

/-- What stands before and behind the first `mark`; nothing behind it, if there is none. -/
private def cutAt (mark : Char) (s : List Char) : List Char × List Char :=
  let head := s.takeWhile (· != mark)
  (head, s.drop (head.length + 1))

/-- The code points from `low` to `high`, every second one. -/
private def everySecond (low high : Nat) : List (Nat × Nat) :=
  (List.range ((high - low) / 2 + 1)).map fun i => (low + 2 * i, low + 2 * i)

/-- The runs of one entry of a table. -/
private def entryRuns (entry : List Char) : List (Nat × Nat) :=
  let (bounds, step) := cutAt '/' entry
  let (low, high) := cutAt '-' bounds
  let first := hexNumber low
  let second := if high.isEmpty then first else hexNumber high
  if step.isEmpty then [(first, second)] else everySecond first second

/--
The set that a table denotes. Blanks separate its entries. An entry is a code point in hexadecimal,
or the first and the last one of a run with a hyphen in between; behind `/2` only every second one
of the run counts.
-/
def ofTable (table : String) : CodeSet :=
  ofRuns ((words table.toList).flatMap entryRuns)

end CodeSet

end HostWatch.Text
