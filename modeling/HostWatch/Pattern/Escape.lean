/-
Escapes in patterns: what a backslash and the characters behind it stand
for.
-/
import HostWatch.Pattern.Flags
import HostWatch.Pattern.Named

namespace HostWatch.Pattern

open Text (CodeSet)

/-- What an escape stands for. -/
inductive Escape where
  /-- A character, which stands for itself. -/
  | literal (c : Char)
  /-- A set of characters. -/
  | set (codes : CodeSet)
  /-- A condition on a position. -/
  | assertion (a : Assertion)
deriving Repr

namespace Escape

-- ==================================================== braces

/-- What stands before a closing brace, without what the flags skip; and what follows the brace. -/
def takeBraced? (f : Flags) (inComment : Bool) :
    List Char → Option (List Char × List Char)
  | [] => none
  | c :: rest =>
    if inComment then takeBraced? f (c != '\n') rest
    else if f.spaced && c == '#' then takeBraced? f true rest
    else if f.spaced && Text.isBlank c then takeBraced? f false rest
    else if c == '\x7d' then some ([], rest)
    else (takeBraced? f false rest).map fun (inside, after) => (c :: inside, after)

-- ==================================================== numbers

/-- The value of a hexadecimal digit. -/
private def hexDigit? (c : Char) : Option Nat :=
  if c.isDigit then some (c.toNat - '0'.toNat)
  else if 'a' ≤ c && c ≤ 'f' then some (c.toNat - 'a'.toNat + 10)
  else if 'A' ≤ c && c ≤ 'F' then some (c.toNat - 'A'.toNat + 10)
  else none

/-- The character whose number hexadecimal digits denote. -/
private def charOf? (digits : List Char) : Option Char := do
  let values ← digits.mapM hexDigit?
  let n := values.foldl (fun n d => n * 16 + d) 0
  if digits.isEmpty || !n.isValidChar then none else some (Char.ofNat n)

/-- The next `n` characters, without what the flags skip. -/
def takeChars? (f : Flags) : Nat → List Char → Option (List Char × List Char)
  | 0, s => some ([], s)
  | n + 1, s =>
    match f.skip s with
    | [] => none
    | c :: rest => (takeChars? f n rest).map fun (chars, after) => (c :: chars, after)

/--
A character by its number: digits in braces, or as many as the letter in front wants. Two digits
are a byte, and one beyond ASCII is no character of its own.
-/
def readNumber? (f : Flags) (width : Nat) (s : List Char) : Option (Escape × List Char) :=
  match f.skip s with
  | '\x7b' :: rest => do
    let (digits, after) ← takeBraced? f false rest
    some (.literal (← charOf? digits), after)
  | s => do
    let (digits, after) ← takeChars? f width s
    let c ← charOf? digits
    if f.ascii && width = 2 && 0x7F < c.toNat then none else some (.literal c, after)

-- ==================================================== sets and positions

/-- A set by its name: one letter, or a description in braces. -/
def readNamed? (f : Flags) (negated : Bool) (s : List Char) :
    Option (Escape × List Char) := do
  if f.ascii then none
  else
    let (description, after) ←
      match f.skip s with
      | '\x7b' :: rest => takeBraced? f false rest
      | c :: rest => some ([c], rest)
      | [] => none
    some (.set (← f.setOf? negated (← describedSet? description)), after)

/-- The spot that a word in braces describes. -/
private def wordSpot? (word : List Char) : Option WordSpot :=
  match String.ofList word with
  | "start" => some .wordStart
  | "end" => some .wordEnd
  | "start-half" => some .startHalf
  | "end-half" => some .endHalf
  | _ => none

/-- A spot at a word, from behind `\b`. A brace before anything but a word is a repetition. -/
def readWordSpot? (f : Flags) (s : List Char) : Option (Escape × List Char) :=
  let plain : Option (Escape × List Char) := some (.assertion (.word f.ascii .boundary), s)
  match s with
  | '\x7b' :: rest =>
    match f.skip rest with
    | [] => none
    | c :: _ =>
      if c.isAlpha || c == '-' then do
        let (word, after) ← takeBraced? f false rest
        some (.assertion (.word f.ascii (← wordSpot? word)), after)
      else plain
  | _ => plain

/-- What a letter behind a backslash stands for, if it is a character or a position. -/
private def ofLetter? (f : Flags) : Char → Option Escape
  | 'a' => some (.literal '\x07')
  | 'f' => some (.literal '\x0c')
  | 'n' => some (.literal '\n')
  | 'r' => some (.literal '\r')
  | 't' => some (.literal '\t')
  | 'v' => some (.literal '\x0b')
  | 'A' => some (.assertion .textStart)
  | 'z' => some (.assertion .textEnd)
  | 'B' => some (.assertion (.word f.ascii .noBoundary))
  | '<' => some (.assertion (.word f.ascii .wordStart))
  | '>' => some (.assertion (.word f.ascii .wordEnd))
  | _ => none

/-- Reads an escape from behind its backslash. -/
def read? (f : Flags) : List Char → Option (Escape × List Char)
  | [] => none
  | 'x' :: rest => readNumber? f 2 rest
  | 'u' :: rest => readNumber? f 4 rest
  | 'U' :: rest => readNumber? f 8 rest
  | 'p' :: rest => readNamed? f false rest
  | 'P' :: rest => readNamed? f true rest
  | 'b' :: rest => readWordSpot? f rest
  | c :: rest =>
    if c.toNat < 0x80 && !c.isAlphanum && c != '<' && c != '>' then some (.literal c, rest)
    else
      match ofLetter? f c with
      | some escape => some (escape, rest)
      | none => (f.classOf? c).map fun codes => (.set codes, rest)

end Escape

end HostWatch.Pattern
