/-
The tokens of a document, found by a machine that takes one character at a
time. A text is one token, with its escapes resolved.

A character may be escaped by its number, in two halves if the number is
too large for one. A half without the other is no character, and a text
with one stands for nothing.
-/
import HostWatch.Value

namespace HostWatch

/-- The two ways in which documents are written. -/
inductive Dialect where
  /-- Data that programs write for each other. -/
  | data
  /-- Files that people write. -/
  | file
deriving DecidableEq, Repr

namespace Document

/-- A token of a document. -/
inductive Token where
  /-- A bracket, a comma or a colon. -/
  | mark (c : Char)
  /-- A quoted text, if it stands for one. -/
  | text (s : Option String)
  /-- The characters of a number. -/
  | number (s : List Char)
  /-- The characters of a bare word. -/
  | word (s : List Char)
deriving DecidableEq, Repr

/-- What the characters since the last token are; their lists run backwards. -/
inductive Scan where
  /-- Nothing but white space. -/
  | idle
  /-- A number that may go on. -/
  | number (chars : List Char)
  /-- A word that may go on. -/
  | word (chars : List Char)
  /--
  A text; `half` is the first half of a character, and `isBroken` tells whether there was one
  without the other.
  -/
  | text (chars : List Char) (half : Option Nat) (isBroken : Bool)
  /-- A text after a backslash. -/
  | escape (chars : List Char) (half : Option Nat) (isBroken : Bool)
  /-- A text within the four digits of an escape, of which `count` are read. -/
  | unit (chars : List Char) (half : Option Nat) (isBroken : Bool) (count value : Nat)
deriving DecidableEq, Repr

/-- White space between tokens. -/
def isSpace (c : Char) : Bool := c = ' ' || c = '\t' || c = '\n' || c = '\r'

/-- The characters that numbers consist of. -/
def isNumeric (c : Char) : Bool :=
  ('0' ≤ c && c ≤ '9') || c = '-' || c = '+' || c = '.' || c = 'e' || c = 'E'

/-- The characters that words consist of. -/
def isLetter (c : Char) : Bool := 'a' ≤ c && c ≤ 'z'

/-- The value of a hexadecimal digit. -/
def hexValue? (c : Char) : Option Nat :=
  if '0' ≤ c ∧ c ≤ '9' then some (c.toNat - '0'.toNat)
  else if 'a' ≤ c ∧ c ≤ 'f' then some (c.toNat - 'a'.toNat + 10)
  else if 'A' ≤ c ∧ c ≤ 'F' then some (c.toNat - 'A'.toNat + 10)
  else none

/-- The character that a backslash and a letter denote. -/
private def escaped? (c : Char) : Option Char :=
  match c with
  | '"' => some '"'
  | '\\' => some '\\'
  | '/' => some '/'
  | 'b' => some '\x08'
  | 'f' => some '\x0c'
  | 'n' => some '\n'
  | 'r' => some '\r'
  | 't' => some '\t'
  | _ => none

/-- A character between two tokens. -/
def fromIdle (c : Char) : Option (Scan × List Token) :=
  if isSpace c then some (.idle, [])
  else if c = '"' then some (.text [] none false, [])
  else if c = '[' ∨ c = ']' ∨ c = '\x7b' ∨ c = '\x7d' ∨ c = ',' ∨ c = ':' then
    some (.idle, [.mark c])
  else if c = '-' ∨ ('0' ≤ c ∧ c ≤ '9') then some (.number [c], [])
  else if isLetter c then some (.word [c], [])
  else none

/-- A text after an escape by the number `unit`. In files no character comes in halves. -/
def withUnit (dialect : Dialect) (chars : List Char) (half : Option Nat) (isBroken : Bool)
    (unit : Nat) : Option Scan :=
  let isFirst := 0xD800 ≤ unit && unit ≤ 0xDBFF
  let isSecond := 0xDC00 ≤ unit && unit ≤ 0xDFFF
  if (isFirst || isSecond) && dialect = .file then none
  else
    match half with
    | some first =>
      if isSecond then
        let c := Char.ofNat (0x10000 + (first - 0xD800) * 0x400 + (unit - 0xDC00))
        some (.text (c :: chars) none isBroken)
      else some (.text chars none true)
    | none =>
      if isFirst then some (.text chars (some unit) isBroken)
      else if isSecond then some (.text chars none true)
      else some (.text (Char.ofNat unit :: chars) none isBroken)

/-- Takes one character: the state after it and the tokens that it completes. -/
def scanChar (dialect : Dialect) (state : Scan) (c : Char) : Option (Scan × List Token) :=
  match state with
  | .idle => fromIdle c
  | .number chars =>
    if isNumeric c then some (.number (c :: chars), [])
    else (fromIdle c).map fun (next, tokens) => (next, .number chars.reverse :: tokens)
  | .word chars =>
    if isLetter c then some (.word (c :: chars), [])
    else (fromIdle c).map fun (next, tokens) => (next, .word chars.reverse :: tokens)
  | .text chars half isBroken =>
    let cut := isBroken || half.isSome
    if c = '\\' then some (.escape chars half isBroken, [])
    else if c = '"' then
      some (.idle, [.text (if cut then none else some (String.ofList chars.reverse))])
    else if c.toNat < 32 then none
    else some (.text (c :: chars) none cut, [])
  | .escape chars half isBroken =>
    if c = 'u' then some (.unit chars half isBroken 0 0, [])
    else (escaped? c).map fun d => (.text (d :: chars) none (isBroken || half.isSome), [])
  | .unit chars half isBroken count value =>
    (hexValue? c).bind fun d =>
      let value := value * 16 + d
      if count < 3 then some (.unit chars half isBroken (count + 1) value, [])
      else (withUnit dialect chars half isBroken value).map (·, [])

/-- The tokens that end with the text. -/
private def scanEnd : Scan → Option (List Token)
  | .idle => some []
  | .number chars => some [.number chars.reverse]
  | .word chars => some [.word chars.reverse]
  | _ => none

/-- The tokens of a text, read from the state `state`. -/
def scanFrom (dialect : Dialect) (state : Scan) : List Char → Option (List Token)
  | [] => scanEnd state
  | c :: rest =>
    (scanChar dialect state c).bind fun (next, tokens) =>
      (scanFrom dialect next rest).map (tokens ++ ·)

/-- The tokens of a document. -/
def tokens? (dialect : Dialect) (s : String) : Option (List Token) :=
  scanFrom dialect .idle s.toList

end Document

end HostWatch
