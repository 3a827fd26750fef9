/-
Sets in brackets: characters, ranges, classes, escapes, brackets inside
brackets, and operators that join what stands before them with what
stands behind. The reader takes one item at a time and keeps a stack of
the brackets that are still open.
-/
import HostWatch.Pattern.Escape

namespace HostWatch.Pattern

open Text (CodeSet)

-- ==================================================== classes

/-- The classes that have names of their own inside brackets. -/
def namedClasses : List (String × CodeSet) :=
  let digit := (0x30, 0x39)
  let upper := (0x41, 0x5A)
  let lower := (0x61, 0x7A)
  [("alnum", ⟨[digit, upper, lower]⟩), ("alpha", ⟨[upper, lower]⟩), ("ascii", ⟨[(0, 0x7F)]⟩),
    ("blank", ⟨[(0x09, 0x09), (0x20, 0x20)]⟩), ("cntrl", ⟨[(0, 0x1F), (0x7F, 0x7F)]⟩),
    ("digit", ⟨[digit]⟩), ("graph", ⟨[(0x21, 0x7E)]⟩), ("lower", ⟨[lower]⟩),
    ("print", ⟨[(0x20, 0x7E)]⟩),
    ("punct", ⟨[(0x21, 0x2F), (0x3A, 0x40), (0x5B, 0x60), (0x7B, 0x7E)]⟩),
    ("space", ⟨[(0x09, 0x0D), (0x20, 0x20)]⟩), ("upper", ⟨[upper]⟩),
    ("word", ⟨[digit, upper, (0x5F, 0x5F), lower]⟩),
    ("xdigit", ⟨[digit, (0x41, 0x46), (0x61, 0x66)]⟩)]

/-- A class, whether it is negated, and what follows; it begins behind the opening bracket. -/
def namedClass? (s : List Char) : Option (CodeSet × Bool × List Char) := do
  let inside ← Text.dropPrefix? [':'] s
  let negated := inside.head? == some '^'
  let inside := if negated then inside.drop 1 else inside
  let name := inside.takeWhile (· != ':')
  let after ← Text.dropPrefix? [':', ']'] (inside.drop name.length)
  let codes ← namedClasses.lookup (String.ofList name)
  some (codes, negated, after)

-- ==================================================== brackets

/-- An operator between sets. -/
inductive SetOperator where
  | intersection
  | difference
  | symmetricDifference

/-- What an operator makes of two sets. -/
def SetOperator.apply : SetOperator → CodeSet → CodeSet → CodeSet
  | intersection => CodeSet.intersection
  | difference => CodeSet.difference
  | symmetricDifference => CodeSet.symmetricDifference

/-- A bracket that is still open. -/
structure Bracket where
  /-- Whether it stands for all other characters. -/
  negated : Bool
  /-- The operator under way, with the set and the depth of what stands before it. -/
  left : Option (SetOperator × CodeSet × Nat) := none
  /-- The union of the items behind that. -/
  codes : CodeSet := ∅
  /-- How many items there are. -/
  items : Nat := 0
  /-- How deep the items are nested. -/
  depth : Nat := 0

namespace Bracket

/-- A bracket with one more item. -/
def add (b : Bracket) (codes : CodeSet) (depth : Nat) : Bracket :=
  { b with codes := b.codes.union codes, items := b.items + 1, depth := Nat.max b.depth depth }

/-- The set that has been read, before case and negation, and how deep it is nested. -/
def content (f : Flags) (b : Bracket) : CodeSet × Nat :=
  let depth := if 2 ≤ b.items then b.depth + 1 else b.depth
  match b.left with
  | none => (b.codes, depth)
  | some (operator, left, leftDepth) =>
    (operator.apply (f.close left) (f.close b.codes), Nat.max leftDepth depth + 1)

/-- The bracket behind an operator. -/
def applyOperator (f : Flags) (b : Bracket) (operator : SetOperator) : Bracket :=
  let (codes, depth) := b.content f
  { negated := b.negated, left := some (operator, codes, depth) }

/-- The set of a bracket that has ended, and how deep it is nested. -/
def close? (f : Flags) (b : Bracket) : Option (CodeSet × Nat) :=
  let (codes, depth) := b.content f
  (f.setOf? b.negated codes).map (·, depth + 1)

/-- Takes the hyphens at the start of a bracket, which stand for themselves. -/
def takeHyphens (f : Flags) : Nat → Bracket → List Char → Bracket × List Char
  | 0, b, s => (b, s)
  | n + 1, b, s =>
    match f.skip s with
    | '-' :: rest => takeHyphens f n (b.add (.ofChar '-') 0) rest
    | s => (b, s)

/-- Opens a bracket. A closing one that comes first stands for itself. -/
def start (f : Flags) (s : List Char) : Bracket × List Char :=
  let s := f.skip s
  let negated := s.head? == some '^'
  let s := if negated then s.drop 1 else s
  match takeHyphens f s.length { negated } s with
  | (b, ']' :: rest) => if b.items = 0 then (b.add (.ofChar ']') 0, rest) else (b, ']' :: rest)
  | (b, s) => (b, s)

-- ==================================================== items

/-- Reads a character or an escape. -/
def readItem? (f : Flags) : List Char → Option (Escape × List Char)
  | [] => none
  | '\\' :: rest => Escape.read? f rest
  | c :: rest => some (.literal c, rest)

/-- The character of an item that can begin or end a range. -/
def bound? (f : Flags) : Escape → Option Nat
  | .literal c => if f.ascii && 0x7F < c.toNat then none else some c.toNat
  | _ => none

/-- The character behind a hyphen; in a text with comments, a comment sign is no such character. -/
def peek (f : Flags) (s : List Char) : Option Char :=
  if f.spaced then
    match Text.trimStart s with
    | '#' :: rest => (Text.trimStart rest).head?
    | s => s.head?
  else s.head?

/-- Reads a character, a range or an escape. -/
def readRange? (f : Flags) (s : List Char) : Option (CodeSet × List Char) := do
  let (first, after) ← readItem? f s
  let alone : Option CodeSet :=
    match first with
    | .set codes => some codes
    | first => (bound? f first).map .single
  match f.skip after with
  | [] => none
  | '-' :: rest =>
    if peek f rest == some ']' || peek f rest == some '-' then some (← alone, '-' :: rest)
    else
      let (last, after) ← readItem? f (f.skip rest)
      let low ← bound? f first
      let high ← bound? f last
      if low ≤ high then some (⟨[(low, high)]⟩, after) else none
  | after => some (← alone, after)

/-- Reads on in an open bracket, and in those around it, until the outermost one ends. -/
def readInside? (f : Flags) :
    Nat → Bracket → List Bracket → List Char → Option (CodeSet × Nat × List Char)
  | 0, _, _, _ => none
  | n + 1, b, outer, s =>
    match f.skip s with
    | [] => none
    | '[' :: rest =>
      match namedClass? rest with
      | some (codes, negated, after) =>
        (f.setOf? negated codes).bind fun codes => readInside? f n (b.add codes 0) outer after
      | none =>
        let (inner, after) := start f rest
        readInside? f n inner (b :: outer) after
    | ']' :: rest =>
      (b.close? f).bind fun (codes, depth) =>
        match outer with
        | [] => some (codes, depth, rest)
        | b :: outer => readInside? f n (b.add codes depth) outer rest
    | '&' :: '&' :: rest => readInside? f n (b.applyOperator f .intersection) outer rest
    | '-' :: '-' :: rest => readInside? f n (b.applyOperator f .difference) outer rest
    | '~' :: '~' :: rest => readInside? f n (b.applyOperator f .symmetricDifference) outer rest
    | s => (readRange? f s).bind fun (codes, after) => readInside? f n (b.add codes 0) outer after

end Bracket

/-- Reads a set from behind its opening bracket; how deep it is nested, and what follows. -/
def readBracket? (f : Flags) (s : List Char) : Option (CodeSet × Nat × List Char) :=
  let (b, after) := Bracket.start f s
  Bracket.readInside? f (s.length + 1) b [] after

end HostWatch.Pattern
