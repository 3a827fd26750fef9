/-
Cutting texts at separators: at every occurrence, at the first one, and
into lines. Texts are lists of characters here, so that each function is
one recursion over its input.
-/

namespace HostWatch.Text

/-- The pieces between the occurrences of `sep`; one more than there are occurrences. -/
def splitOn (sep : Char) : List Char → List (List Char)
  | [] => [[]]
  | c :: rest =>
    if c = sep then [] :: splitOn sep rest
    else
      match splitOn sep rest with
      | [] => [[c]]
      | p :: ps => (c :: p) :: ps

/-- What stands before and after the first `sep`. -/
def splitFirst? (sep : Char) : List Char → Option (List Char × List Char)
  | [] => none
  | c :: rest =>
    if c = sep then some ([], rest)
    else (splitFirst? sep rest).map fun (before, after) => (c :: before, after)

/-- The pieces that each end in a line feed, which they keep, and the rest if there is one. -/
def lineBlocks : List Char → List (List Char)
  | [] => []
  | c :: rest =>
    if c = '\n' then [c] :: lineBlocks rest
    else
      match lineBlocks rest with
      | [] => [[c]]
      | p :: ps => (c :: p) :: ps

/-- A line without its terminator, a line feed or a carriage return before one. -/
def stripLineEnd (line : List Char) : List Char :=
  match line.reverse with
  | '\n' :: '\r' :: before => before.reverse
  | '\n' :: before => before.reverse
  | _ => line

/-- The lines of a text; a carriage return counts as an end of line only before a line feed. -/
def lines (s : List Char) : List (List Char) := (lineBlocks s).map stripLineEnd

/-- What follows `lead`, when the text begins with it. -/
def dropPrefix? (lead : List Char) (s : List Char) : Option (List Char) :=
  if lead.isPrefixOf s then some (s.drop lead.length) else none

/-- What stands before `tail`, when the text ends in it. -/
def dropSuffix? (tail : List Char) (s : List Char) : Option (List Char) :=
  if tail.isSuffixOf s then some (s.take (s.length - tail.length)) else none

/-- What stands between `lead` and `tail`, when the text is framed by the two without overlap. -/
def unframe? (lead tail : List Char) (s : List Char) : Option (List Char) :=
  (dropPrefix? lead s).bind (dropSuffix? tail)

/-- Whether `part` occurs somewhere in a text. -/
def hasInfix (part : List Char) : List Char → Bool
  | [] => part.isEmpty
  | c :: rest => part.isPrefixOf (c :: rest) || hasInfix part rest

/-- What stands before the first occurrence of `part`, the whole text when there is none. -/
def before (part : List Char) : List Char → List Char
  | [] => []
  | c :: rest => if part.isPrefixOf (c :: rest) then [] else c :: before part rest

end HostWatch.Text
