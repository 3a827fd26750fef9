/-
Patterns for texts, and whether a text has a part that matches one.

A pattern is laid out over a text first: each set becomes the positions
where a character of it stands, each condition the positions where it
holds. The laid out pattern then leads from a set of positions to the set
of positions behind it. There is no backtracking, and repetition stops
when it reaches nothing new: so the time is bounded by the sizes of
pattern and text alone.
-/
import HostWatch.Text.WordChar

namespace HostWatch

open Text (CodeSet)

-- ==================================================== conditions on positions

/-- How a position lies to the words of a text. -/
inductive WordSpot where
  /-- At the start or the end of a word. -/
  | boundary
  /-- Inside or outside of words. -/
  | noBoundary
  | wordStart
  | wordEnd
  /-- Not behind a character of a word. -/
  | startHalf
  /-- Not before a character of a word. -/
  | endHalf
deriving DecidableEq, Repr

/-- Whether a position lies as described, if words are made of the characters of `isWordChar`. -/
def WordSpot.holds (isWordChar : Char → Bool) (before after : Option Char) : WordSpot → Bool
  | boundary => before.any isWordChar != after.any isWordChar
  | noBoundary => before.any isWordChar == after.any isWordChar
  | wordStart => !before.any isWordChar && after.any isWordChar
  | wordEnd => before.any isWordChar && !after.any isWordChar
  | startHalf => !before.any isWordChar
  | endHalf => !after.any isWordChar

/-- A condition on a position in a text. -/
inductive Assertion where
  | textStart
  | textEnd
  | lineStart
  | lineEnd
  /-- The start of a line, where carriage returns end lines, too. -/
  | anyLineStart
  /-- The end of a line, where carriage returns end lines, too. -/
  | anyLineEnd
  /-- A spot at a word; with `ascii`, words are made of characters of ASCII only. -/
  | word (ascii : Bool) (spot : WordSpot)
deriving DecidableEq, Repr

/-- Whether a position, between the characters before and after it, meets a condition. -/
def Assertion.holds (before after : Option Char) : Assertion → Bool
  | textStart => before.isNone
  | textEnd => after.isNone
  | lineStart => before.isNone || before == some '\n'
  | lineEnd => after.isNone || after == some '\n'
  | anyLineStart =>
    before.isNone || before == some '\n' || (before == some '\r' && after != some '\n')
  | anyLineEnd =>
    after.isNone || after == some '\r' || (after == some '\n' && before != some '\r')
  | word ascii spot =>
    spot.holds (if ascii then Text.isAsciiWordChar else Text.isWordChar) before after

-- ==================================================== patterns

/-- A pattern. -/
inductive Pattern where
  /-- Nothing, which is found everywhere. -/
  | empty
  /-- One character of a set. -/
  | one (codes : CodeSet)
  | assertion (a : Assertion)
  | sequence (a b : Pattern)
  | either (a b : Pattern)
  /-- A pattern several times, at least `min` and at most `max` times if there is a limit. -/
  | repeated (p : Pattern) (min : Nat) (max : Option Nat)
  /-- A pattern whose part of the text is remembered. -/
  | captured (p : Pattern)
deriving DecidableEq, Repr

namespace Pattern

/-- Whether all that a pattern matches is empty. -/
def isZeroWidth : Pattern → Bool
  | empty | assertion _ => true
  | one _ => false
  | sequence a b | either a b => a.isZeroWidth && b.isZeroWidth
  | repeated p _ max => max == some 0 || (max.isSome && p.isZeroWidth)
  | captured p => p.isZeroWidth

/-- Whether no part that a pattern matches is empty. -/
def takesInput : Pattern → Bool
  | empty | assertion _ => false
  | one _ => true
  | sequence a b => a.takesInput || b.takesInput
  | either a b => a.takesInput && b.takesInput
  | repeated p min _ => min != 0 && p.takesInput
  | captured p => p.takesInput

/-- Some patterns one after the other. -/
private def allOf : List Pattern → Pattern
  | [] => empty
  | [p] => p
  | p :: rest => sequence p (allOf rest)

/-- Patterns one after the other, without those that are nothing. -/
def sequenceOf (parts : List Pattern) : Pattern := allOf (parts.filter (· != empty))

/-- The set of the characters that a pattern for one character allows. -/
def codes? : Pattern → Option CodeSet
  | one codes => some codes
  | _ => none

/-- One of some patterns, and none of no patterns. -/
private def anyOf : List Pattern → Pattern
  | [] => one ∅
  | [p] => p
  | p :: rest => either p (anyOf rest)

/-- One of some patterns; those for one character each are one pattern for one character. -/
def eitherOf (alternatives : List Pattern) : Pattern :=
  match alternatives.mapM codes? with
  | some [codes] => one codes
  | some sets => one (.unionAll sets)
  | none => anyOf alternatives

/-- A pattern several times; what takes no part of the text is there once, however often. -/
def times (p : Pattern) (min : Nat) (max : Option Nat) : Pattern :=
  let (min, max) :=
    if p.isZeroWidth then (Nat.min min 1, some (Nat.min (max.getD 1) 1)) else (min, max)
  if max = some 0 then empty
  else if min = 1 ∧ max = some 1 then p
  else repeated p min max

-- ==================================================== sets of positions

/-- A set of positions in a text: bit `i` for the position behind `i` characters. -/
abbrev Positions := Nat

/-- The characters on the two sides of each position of a text. -/
def sides (text : List Char) : List (Option Char × Option Char) :=
  (none :: text.map some).zip (text.map some ++ [none])

/-- The positions of a text between characters for which a test holds. -/
def positionsWhere (test : Option Char → Option Char → Bool) (text : List Char) : Positions :=
  (sides text).foldr (fun (before, after) rest => 2 * rest + (test before after).toNat) 0

/-- A pattern over a text, with the positions where its parts can begin. -/
inductive Layout where
  | empty
  /-- One character. -/
  | one (starts : Positions)
  /-- A condition on the position. -/
  | assertion (spots : Positions)
  | sequence (a b : Layout)
  | either (a b : Layout)
  | repeated (p : Layout) (min : Nat) (max : Option Nat)
deriving Repr

/-- Lays a pattern out over a text. -/
def layOut (text : List Char) : Pattern → Layout
  | empty => .empty
  | one codes => .one (positionsWhere (fun _ after => after.any codes.hasChar) text)
  | assertion a => .assertion (positionsWhere (fun before after => a.holds before after) text)
  | sequence a b => .sequence (a.layOut text) (b.layOut text)
  | either a b => .either (a.layOut text) (b.layOut text)
  | repeated p min max => .repeated (p.layOut text) min max
  | captured p => p.layOut text

namespace Layout

/-- The positions behind `n` steps. -/
def after (step : Positions → Positions) : Nat → Positions → Positions
  | 0, here => here
  | n + 1, here =>
    let next := step here
    if next = here then here else after step n next

/-- All positions within `n` steps, where steps from all but `newest` have been taken. -/
def within (step : Positions → Positions) : Nat → Positions → Positions → Positions
  | 0, reached, _ => reached
  | n + 1, reached, newest =>
    let all := reached ||| step newest
    if all = reached then reached else within step n all (all ^^^ reached)

/--
The positions where a pattern can end that begins at one of some positions. More steps than the
text has positions lead nowhere else, so `limit` bounds the number of steps.
-/
def ends (limit : Nat) : Layout → Positions → Positions
  | empty, here => here
  | one starts, here => (here &&& starts) <<< 1
  | assertion spots, here => here &&& spots
  | sequence a b, here => b.ends limit (a.ends limit here)
  | either a b, here => a.ends limit here ||| b.ends limit here
  | repeated p min max, here =>
    let least := after (p.ends limit) (Nat.min min limit) here
    within (p.ends limit) (max.elim limit fun max => Nat.min (max - min) limit) least least

end Layout

/-- Whether some part of a text matches. -/
def matchesIn (p : Pattern) (text : List Char) : Bool :=
  (p.layOut text).ends (text.length + 1) (positionsWhere (fun _ _ => true) text) != 0

end Pattern

end HostWatch
