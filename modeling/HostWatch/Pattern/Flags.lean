/-
The flags that change how the elements of a pattern are read, and the
elements that depend on them alone: single characters, the dot, the ends
of lines, words, digits and blanks.
-/
import HostWatch.Pattern
import HostWatch.Text.Blank
import HostWatch.Text.Folding
import HostWatch.Text.Letter

namespace HostWatch.Pattern

open Text (CodeSet)

/-- How the elements of a pattern are read. -/
structure Flags where
  /-- The case of letters does not matter. -/
  fold : Bool := false
  /-- `^` and `$` stand at the start and end of each line. -/
  multiLine : Bool := false
  /-- `.` stands for the end of a line, too. -/
  dotAll : Bool := false
  /-- Carriage returns end lines, too. -/
  anyBreak : Bool := false
  /-- Words, digits, blanks and letters are those of ASCII, and sets have no others. -/
  ascii : Bool := false
  /-- Blanks and comments are skipped. -/
  spaced : Bool := false
deriving DecidableEq, Repr

namespace Flags

/-- Sets or clears the flag of a letter. -/
private def set? (f : Flags) (on : Bool) : Char → Option Flags
  | 'i' => some { f with fold := on }
  | 'm' => some { f with multiLine := on }
  | 's' => some { f with dotAll := on }
  | 'R' => some { f with anyBreak := on }
  | 'u' => some { f with ascii := !on }
  | 'x' => some { f with spaced := on }
  | 'U' => some f
  | _ => none

/-- The flags after some letters; those behind a hyphen are cleared, and no letter comes twice. -/
def read? (f : Flags) (letters : List Char) : Option Flags := do
  let on := letters.takeWhile (· != '-')
  let off := letters.drop (on.length + 1)
  if !letters.Nodup || letters.getLast? == some '-' then none
  else
    let f ← on.foldlM (fun f c => f.set? true c) f
    off.foldlM (fun f c => f.set? false c) f

-- ==================================================== blanks and comments

/-- What follows blanks and comments; a comment runs from `#` to the end of the line. -/
def dropBlanks (inComment : Bool) : List Char → List Char
  | [] => []
  | c :: rest =>
    if inComment then dropBlanks (c != '\n') rest
    else if c == '#' then dropBlanks true rest
    else if Text.isBlank c then dropBlanks false rest
    else c :: rest

/-- What follows in a pattern, behind the blanks and comments that are to be skipped. -/
def skip (f : Flags) (s : List Char) : List Char := if f.spaced then dropBlanks false s else s

-- ==================================================== sets

/-- The capital letters of ASCII. -/
private def asciiUpper : CodeSet := ⟨[(0x41, 0x5A)]⟩

/-- The small letters of ASCII. -/
private def asciiLower : CodeSet := ⟨[(0x61, 0x7A)]⟩

/-- A set with all letters of ASCII that differ from one of its own in case only. -/
private def closeAscii (s : CodeSet) : CodeSet :=
  .unionAll [s, (s.intersection asciiUpper).shift 32, (s.intersection asciiLower).shift (-32)]

/-- A set with the letters that differ from its own in case only, if case does not matter. -/
def close (f : Flags) (s : CodeSet) : CodeSet :=
  if !f.fold then s else if f.ascii then closeAscii s else Text.Folding.close s

/-- A set, or all that is not in it; such a set leaves ASCII, where the flags do not allow it. -/
def negate? (f : Flags) (negated : Bool) (s : CodeSet) : Option CodeSet :=
  if !negated then some s else if f.ascii then none else some s.complement

/-- A set of characters with those that differ in case only, or all others. -/
def setOf? (f : Flags) (negated : Bool) (s : CodeSet) : Option CodeSet :=
  f.negate? negated (f.close s)

/--
The set that a letter behind a backslash stands for. A capital stands for all other characters.
-/
def classOf? (f : Flags) (letter : Char) : Option CodeSet :=
  match Text.lowerChar letter with
  | 'd' => f.negate? (letter == 'D') (if f.ascii then ⟨[(0x30, 0x39)]⟩ else Text.digitCodes)
  | 's' =>
    f.negate? (letter == 'S')
      (if f.ascii then ⟨[(0x09, 0x0D), (0x20, 0x20)]⟩ else Text.Property.codes .whiteSpace)
  | 'w' =>
    f.negate? (letter == 'W')
      (if f.ascii then ⟨[(0x30, 0x39), (0x41, 0x5A), (0x5F, 0x5F), (0x61, 0x7A)]⟩
      else Text.wordCodes)
  | _ => none

-- ==================================================== elements

/-- The pattern of a character that stands for itself. -/
def literal (f : Flags) (c : Char) : Pattern := .one (f.close (.ofChar c))

/-- The pattern of the dot. It stands for no single byte of a longer character. -/
def dot? (f : Flags) : Option Pattern :=
  if f.ascii then none
  else
    let breaks : CodeSet :=
      if f.dotAll then ∅ else if f.anyBreak then ⟨[(10, 10), (13, 13)]⟩ else ⟨[(10, 10)]⟩
    some (.one breaks.complement)

/-- The condition of `^`. -/
def caret (f : Flags) : Assertion :=
  if !f.multiLine then .textStart else if f.anyBreak then .anyLineStart else .lineStart

/-- The condition of `$`. -/
def dollar (f : Flags) : Assertion :=
  if !f.multiLine then .textEnd else if f.anyBreak then .anyLineEnd else .lineEnd

end Flags

end HostWatch.Pattern
