/-
Cutting a command into words. Blanks separate words, except between quotes
and behind a backslash; a word that begins with a hash mark is a comment up
to the end of the line.
-/

namespace HostWatch.Command

/-- Where in a command a character stands. -/
inductive Spot where
  | between
  | comment
  | word
  /-- Behind a backslash, within a word or before it. -/
  | escaped (inWord : Bool)
  | singleQuoted
  | doubleQuoted
  | doubleEscaped
deriving DecidableEq, Repr

/-- How far a command has been read. -/
structure Cut where
  /-- The words so far, the last one first. -/
  words : List String := []
  /-- The characters of the word under way, the last one first. -/
  word : List Char := []
  spot : Spot := .between
deriving DecidableEq, Repr

namespace Cut

/-- Adds a character to the word under way. -/
def push (cut : Cut) (c : Char) (spot : Spot) : Cut :=
  { cut with word := c :: cut.word, spot }

/-- Ends the word under way. -/
def endWord (cut : Cut) : Cut :=
  { words := String.ofList cut.word.reverse :: cut.words, word := [], spot := .between }

/-- Whether a character separates words. -/
def isSeparator (c : Char) : Bool := c == ' ' || c == '\t' || c == '\n'

/-- Whether a backslash between double quotes makes a character stand for itself. -/
def isEscapable (c : Char) : Bool := c == '$' || c == '\x60' || c == '"' || c == '\\'

/-- Takes a character where quotes and backslashes count. -/
private def takeOpen (cut : Cut) (c : Char) (inWord : Bool) : Cut :=
  if c == '\'' then { cut with spot := .singleQuoted }
  else if c == '"' then { cut with spot := .doubleQuoted }
  else if c == '\\' then { cut with spot := .escaped inWord }
  else cut.push c .word

/-- Takes a character. -/
def take (cut : Cut) (c : Char) : Cut :=
  match cut.spot with
  | .between =>
    if isSeparator c then cut
    else if c == '#' then { cut with spot := .comment }
    else cut.takeOpen c false
  | .comment => if c == '\n' then { cut with spot := .between } else cut
  | .word => if isSeparator c then cut.endWord else cut.takeOpen c true
  | .escaped inWord =>
    if c == '\n' then { cut with spot := if inWord then .word else .between }
    else cut.push c .word
  | .singleQuoted => if c == '\'' then { cut with spot := .word } else cut.push c .singleQuoted
  | .doubleQuoted =>
    if c == '"' then { cut with spot := .word }
    else if c == '\\' then { cut with spot := .doubleEscaped }
    else cut.push c .doubleQuoted
  | .doubleEscaped =>
    if c == '\n' then { cut with spot := .doubleQuoted }
    else if isEscapable c then cut.push c .doubleQuoted
    else (cut.push '\\' .doubleQuoted).push c .doubleQuoted

/-- The words of a command that ends here, unless a quote is still open. -/
def finish? (cut : Cut) : Option (List String) :=
  match cut.spot with
  | .between | .comment => some cut.words.reverse
  | .word => some cut.endWord.words.reverse
  | .escaped _ => some (cut.push '\\' .word).endWord.words.reverse
  | .singleQuoted | .doubleQuoted | .doubleEscaped => none

end Cut

/-- The words of a command, unless a quote is not closed. -/
def words? (command : String) : Option (List String) :=
  (command.toList.foldl Cut.take {}).finish?

end HostWatch.Command
