/-
White space, and the three things the formats do with it: cutting it off
the ends of a text, cutting a text into words, and asking whether a text
holds anything else.

Blank are the characters of the Unicode property `White_Space`, which is
wider than the white space of `Char.isWhitespace`.
-/

namespace HostWatch.Text

/-- The characters with the Unicode property `White_Space`. -/
def isBlank (c : Char) : Bool :=
  let n := c.toNat
  (0x09 ≤ n && n ≤ 0x0D) || n == 0x20 || n == 0x85 || n == 0xA0 || n == 0x1680 ||
    (0x2000 ≤ n && n ≤ 0x200A) || n == 0x2028 || n == 0x2029 || n == 0x202F ||
    n == 0x205F || n == 0x3000

/-- The characters of a text from its first one that is not blank. -/
def trimStart (s : List Char) : List Char := s.dropWhile isBlank

/-- The characters of a text up to its last one for which `p` fails. -/
def dropEndWhile (p : Char → Bool) (s : List Char) : List Char :=
  (s.reverse.dropWhile p).reverse

/-- The characters of a text up to its last one that is not blank. -/
def trimEnd (s : List Char) : List Char := dropEndWhile isBlank s

/-- A text without the blanks at its two ends. -/
def trim (s : List Char) : List Char := trimEnd (trimStart s)

/-- Adds a character in front of the first word of `words`. -/
private def growFirst (c : Char) : List (List Char) → List (List Char)
  | [] => [[c]]
  | w :: ws => (c :: w) :: ws

/-- The maximal pieces of a text without blanks. -/
def words : List Char → List (List Char)
  | [] => []
  | c :: rest =>
    if isBlank c then words rest
    else
      match rest with
      | [] => [[c]]
      | d :: _ => if isBlank d then [c] :: words rest else growFirst c (words rest)

/-- Whether a text has no character but blanks. -/
def allBlank (s : List Char) : Bool := s.all isBlank

end HostWatch.Text
