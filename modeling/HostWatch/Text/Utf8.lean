/-
Reading bytes as UTF-8 text. Every maximal part that cannot begin or
continue a character becomes one replacement character, so that any bytes
have a text.
-/

namespace HostWatch.Text

/-- What a lead byte promises: how many bytes follow it and the range of the first of these. -/
structure Lead where
  /-- The bits that the lead byte contributes. -/
  bits : Nat
  /-- How many continuation bytes follow. -/
  count : Nat
  /-- The smallest first continuation byte. -/
  low : Nat
  /-- The largest first continuation byte. -/
  high : Nat

/-- The lead bytes of well-formed sequences of two to four bytes. -/
def lead? (b : Nat) : Option Lead :=
  if 0xC2 ≤ b ∧ b ≤ 0xDF then some ⟨b - 0xC0, 1, 0x80, 0xBF⟩
  else if b = 0xE0 then some ⟨0, 2, 0xA0, 0xBF⟩
  else if b = 0xED then some ⟨13, 2, 0x80, 0x9F⟩
  else if 0xE1 ≤ b ∧ b ≤ 0xEF then some ⟨b - 0xE0, 2, 0x80, 0xBF⟩
  else if b = 0xF0 then some ⟨0, 3, 0x90, 0xBF⟩
  else if 0xF1 ≤ b ∧ b ≤ 0xF3 then some ⟨b - 0xF0, 3, 0x80, 0xBF⟩
  else if b = 0xF4 then some ⟨4, 3, 0x80, 0x8F⟩
  else none

/-- The character that stands for bytes that are no text. -/
def replacement : Char := '\uFFFD'

/-- A character under way: the bits so far and the continuation bytes still to come. -/
structure Pending where
  bits : Nat
  missing : Nat
  low : Nat
  high : Nat

/-- The characters of a byte that stands where a character begins. -/
private def start (b : Nat) : List Char × Option Pending :=
  if b < 0x80 then ([Char.ofNat b], none)
  else
    match lead? b with
    | some l => ([], some ⟨l.bits, l.count, l.low, l.high⟩)
    | none => ([replacement], none)

/-- The characters that a byte completes, and the character that is under way after it. -/
def decodeByte (pending : Option Pending) (b : Nat) : List Char × Option Pending :=
  match pending with
  | none => start b
  | some p =>
    if p.low ≤ b ∧ b ≤ p.high then
      let bits := p.bits * 64 + (b - 0x80)
      if p.missing ≤ 1 then ([Char.ofNat bits], none)
      else ([], some ⟨bits, p.missing - 1, 0x80, 0xBF⟩)
    else
      let (chars, next) := start b
      (replacement :: chars, next)

/-- The characters of a byte sequence, given the character that is under way before it. -/
def decodeFrom (pending : Option Pending) : List UInt8 → List Char
  | [] => if pending.isSome then [replacement] else []
  | b :: rest =>
    let (chars, next) := decodeByte pending b.toNat
    chars ++ decodeFrom next rest

/-- The pieces of a byte sequence that each end in a line feed, and the rest if there is one. -/
def byteLines : List UInt8 → List (List UInt8)
  | [] => []
  | b :: rest =>
    if b = 10 then [b] :: byteLines rest
    else
      match byteLines rest with
      | [] => [[b]]
      | line :: lines => (b :: line) :: lines

/-- The lines of a byte sequence before the first one that is no text. -/
def leadingText (bytes : ByteArray) : String :=
  let lines := (byteLines bytes.toList).map fun line => String.fromUTF8? ⟨line.toArray⟩
  String.join ((lines.takeWhile Option.isSome).filterMap id)

/-- The text of a byte sequence. -/
def ofBytes (bytes : ByteArray) : String :=
  String.ofList (decodeFrom none bytes.toList)

end HostWatch.Text
