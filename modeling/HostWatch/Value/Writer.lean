/-
Data values as text, on one line or one item a line. A record is written
by increasing field name.
-/
import HostWatch.Decimal.Exponent
import HostWatch.Value

namespace HostWatch.Value

/-- A hexadecimal digit. -/
def hexDigit (n : Nat) : Char := ((Nat.toDigits 16 n).head?).getD '0'

/-- One character of a quoted text. -/
def escapeChar (c : Char) : List Char :=
  if c = '"' then ['\\', '"']
  else if c = '\\' then ['\\', '\\']
  else if c = '\n' then ['\\', 'n']
  else if c = '\r' then ['\\', 'r']
  else if c = '\t' then ['\\', 't']
  else if c.toNat = 8 then ['\\', 'b']
  else if c.toNat = 12 then ['\\', 'f']
  else if c.toNat < 32 then
    ['\\', 'u', '0', '0', hexDigit (c.toNat / 16), hexDigit (c.toNat % 16)]
  else [c]

/-- A text between quotes. -/
def quoted (s : String) : String :=
  String.ofList ('"' :: s.toList.flatMap escapeChar ++ ['"'])

/-- How the items of a list and the fields of a record are laid out. -/
structure Layout where
  /-- What stands before an item at a depth, and before the closing bracket. -/
  lineBreak : Nat → String
  /-- What stands after the name of a field. -/
  afterName : String

/-- Everything on one line. -/
def Layout.compact : Layout := ⟨fun _ => "", ":"⟩

/-- One item a line, indented by two spaces a level. -/
def Layout.pretty : Layout :=
  ⟨fun depth => "\n" ++ String.ofList (List.replicate (2 * depth) ' '), ": "⟩

/-- Items between brackets, none of them taking no line of its own. -/
def bracketed (layout : Layout) (depth : Nat) (opening closing : String)
    (items : List String) : String :=
  if items.isEmpty then opening ++ closing
  else
    opening ++ ",".intercalate (items.map fun item => layout.lineBreak (depth + 1) ++ item) ++
      layout.lineBreak depth ++ closing

mutual

/-- The text of a value at a depth of nesting. -/
def write (layout : Layout) (depth : Nat) : Value → String
  | .null => "null"
  | .bool b => if b then "true" else "false"
  | .int n => toString n
  | .float x => Decimal.storedText x
  | .text s => quoted s
  | .list items => bracketed layout depth "[" "]" (writeItems layout (depth + 1) items)
  | .record fields =>
    bracketed layout depth "\x7b" "\x7d" (writeFields layout (depth + 1) fields)

/-- The texts of the items of a list. -/
def writeItems (layout : Layout) (depth : Nat) : List Value → List String
  | [] => []
  | v :: rest => write layout depth v :: writeItems layout depth rest

/-- The texts of the fields of a record. -/
def writeFields (layout : Layout) (depth : Nat) : List (String × Value) → List String
  | [] => []
  | (name, v) :: rest =>
    (quoted name ++ layout.afterName ++ write layout depth v) :: writeFields layout depth rest

end

/-- A value on one line. -/
def compact (v : Value) : String := write .compact 0 v

/-- A value with one item a line. -/
def pretty (v : Value) : String := write .pretty 0 v

end HostWatch.Value
