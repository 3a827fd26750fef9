/-
How programs mention names in their messages: as they are if that is
clear, and else between quotes, so that a shell would read them back.
-/
import HostWatch.Programs.Escape

namespace HostWatch.Mention

/-- Characters that are clear everywhere. -/
private def isClear (c : Char) : Bool := c.isAlphanum || "%+,-./]_@".toList.contains c

/-- Characters that are clear unless a name begins with them. -/
private def isClearLater (c : Char) : Bool := c == '#' || c == '~'

/-- Whether a name is clear without quotes. Braces are so unless they stand alone. -/
private def isClearName : List Char → Bool
  | [] => false
  | [c] => isClear c
  | c :: rest =>
    let isPlain (c : Char) := isClear c || c == '\x7b' || c == '\x7d'
    isPlain c && rest.all fun c => isPlain c || isClearLater c

/-- Whether a name with an apostrophe is clear between double quotes. -/
private def fitsDoubleQuotes (s : List Char) : Bool :=
  s.contains '\'' && s.all fun c =>
    c == '\'' || c == ' ' || c == ':' || (isClear c && c != '@')

/-- A byte as an escape: a letter, or an octal number. -/
private def escaped (n : Nat) : List Char :=
  let letter : Option Char := match n with
    | 7 => some 'a'
    | 8 => some 'b'
    | 9 => some 't'
    | 10 => some 'n'
    | 11 => some 'v'
    | 12 => some 'f'
    | 13 => some 'r'
    | _ => none
  match letter with
  | some c => ['\\', c]
  | none => '\\' :: (Decimal.padded 3 ((n / 64) * 100 + (n / 8 % 8) * 10 + n % 8)).toList

/-- A name between single quotes; `isEscaping` tells whether an escape has just been written. -/
private def quotedFrom (isEscaping : Bool) : List Char → List Char
  | [] => []
  | c :: rest =>
    if c == '\'' then ['\'', '\\', '\'', '\''] ++ quotedFrom false rest
    else if c.toNat < 0x20 || 0x7F ≤ c.toNat then
      (if isEscaping then [] else ['\'', '$', '\'']) ++
        (Escape.bytesOf [c]).flatMap (fun b => escaped b.toNat) ++ quotedFrom true rest
    else (if isEscaping then ['\'', '\''] else []) ++ c :: quotedFrom false rest

/-- A name in a message. -/
def name (s : String) : String :=
  let chars := s.toList
  if isClearName chars then s
  else if fitsDoubleQuotes chars then String.ofList ('"' :: chars ++ ['"'])
  else String.ofList ('\'' :: quotedFrom false chars ++ ['\''])

/-- A text in a message, always between quotes. -/
def text (s : String) : String :=
  String.ofList ('\'' :: (s.toList.flatMap fun c =>
    if c == '\'' || c == '\\' then ['\\', c] else [c]) ++ ['\''])

end HostWatch.Mention
