/-
Backslash escapes in the texts that programs print. Programs differ in how
they write a byte by its octal number and in the letters that they know.
-/
import HostWatch.Decimal.Bits
import HostWatch.Decimal.Integer

namespace HostWatch.Escape

/-- How a byte is written by its octal number. -/
inductive OctalForm where
  /-- Up to three digits. -/
  | short
  /-- Up to three digits, in front of which a zero may stand. -/
  | long
deriving DecidableEq, Repr

/-- What escapes a program knows. -/
structure Escapes where
  octal : OctalForm
  /-- Whether it knows hexadecimal numbers. -/
  hexadecimal : Bool := true

/-- The character that a single letter behind a backslash stands for. -/
def letter? : Char → Option Char
  | 'a' => some '\x07'
  | 'b' => some '\x08'
  | 'e' => some '\x1b'
  | 'f' => some '\x0c'
  | 'n' => some '\n'
  | 'r' => some '\r'
  | 't' => some '\t'
  | 'v' => some '\x0b'
  | '\\' => some '\\'
  | _ => none

/-- Whether a character is an octal digit. -/
def isOctal (c : Char) : Bool := '0' ≤ c && c ≤ '7'

/-- Whether a character is a hexadecimal digit. -/
def isHex (c : Char) : Bool := c.isDigit || ('a' ≤ c && c ≤ 'f') || ('A' ≤ c && c ≤ 'F')

/-- The number that some digits denote. -/
def number (base : Nat) (digits : List Char) : Nat :=
  digits.foldl (fun n c => n * base + Decimal.hexValue c) 0

/-- At most `count` characters for which `p` holds, from the start. -/
def leading (p : Char → Bool) (count : Nat) (s : List Char) : List Char :=
  (s.take count).takeWhile p

/-- The octal digits of an escape, from behind its backslash. -/
private def octalDigits (form : OctalForm) (s : List Char) : List Char :=
  match form, s with
  | .long, '0' :: rest => '0' :: leading isOctal 3 rest
  | _, s => leading isOctal 3 s

/-- The bytes of some characters. -/
def bytesOf (s : List Char) : List UInt8 := (String.ofList s).toUTF8.toList

/-- The bytes of an escape, from behind its backslash, and what follows. -/
def one (escapes : Escapes) (s : List Char) : List UInt8 × List Char :=
  let octal := octalDigits escapes.octal s
  if !octal.isEmpty then ([(number 8 octal).toUInt8], s.drop octal.length)
  else
    match s with
    | [] => (bytesOf ['\\'], [])
    | c :: rest =>
      let hex := leading isHex 2 rest
      if c == 'x' && escapes.hexadecimal && !hex.isEmpty then
        ([(number 16 hex).toUInt8], rest.drop hex.length)
      else
        match letter? c with
        | some meant => (bytesOf [meant], rest)
        | none => (bytesOf ['\\', c], rest)

/-- What escapes make of a text. -/
structure Expanded where
  bytes : List UInt8
  /-- Whether an escape ends all output. -/
  stops : Bool := false

/-- The bytes of a text with escapes, of which at most `fuel` characters are left. -/
private def expandFrom (escapes : Escapes) (fuel : Nat) (s : List Char) : Expanded :=
  match fuel, s with
  | 0, _ | _, [] => ⟨[], false⟩
  | _ + 1, '\\' :: 'c' :: _ => ⟨[], true⟩
  | fuel + 1, '\\' :: rest =>
    let (bytes, after) := one escapes rest
    let e := expandFrom escapes fuel after
    { e with bytes := bytes ++ e.bytes }
  | fuel + 1, c :: rest =>
    let e := expandFrom escapes fuel rest
    { e with bytes := bytesOf [c] ++ e.bytes }

/-- The bytes of a text with escapes. -/
def expand (escapes : Escapes) (s : String) : Expanded := expandFrom escapes s.length s.toList

end HostWatch.Escape
