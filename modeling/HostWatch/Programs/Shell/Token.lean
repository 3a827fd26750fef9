/-
Cutting a script into words and marks. A word keeps its quotes and its
variables as pieces, since what they stand for is known only when the
command runs.
-/
import HostWatch.Programs.Shell.Syntax
import HostWatch.Text.Split

namespace HostWatch.Shell

/-- What is said of a quote that is not closed. -/
def openQuote : String := "Unterminated quoted string"

/-- What is said of a script that ends within a bracket. -/
def openBracket : String := "end of file unexpected (expecting \")\")"

-- ==================================================== brackets

/-- Which quotes are open. -/
inductive Quotes where
  | closed
  | single
  | double
deriving DecidableEq, Repr

/--
The text up to the bracket that closes one that has been opened, and what follows; `depth` counts
the brackets within it that are still open.
-/
def enclosed? (opening closing : Char) (depth : Nat) (quotes : Quotes) :
    List Char → Option (List Char × List Char)
  | [] => none
  | '\\' :: c :: rest =>
    let quotes : Quotes := if quotes == .single && c == '\'' then .closed else quotes
    (enclosed? opening closing depth quotes rest).map fun (text, after) =>
      ('\\' :: c :: text, after)
  | c :: rest =>
    let keep (depth : Nat) (quotes : Quotes) : Option (List Char × List Char) :=
      (enclosed? opening closing depth quotes rest).map fun (text, after) => (c :: text, after)
    match quotes with
    | .single => keep depth (if c == '\'' then .closed else .single)
    | .double => keep depth (if c == '"' then .closed else .double)
    | .closed =>
      if c == '\'' then keep depth .single
      else if c == '"' then keep depth .double
      else if c == closing then if depth = 0 then some ([], rest) else keep (depth - 1) .closed
      else keep (if c == opening then depth + 1 else depth) .closed

/-- The text up to a backquote, without the backslashes that protect others, and what follows. -/
def backquoted? : List Char → Option (List Char × List Char)
  | [] => none
  | '\x60' :: rest => some ([], rest)
  | '\\' :: c :: rest =>
    let isProtected := c == '\x60' || c == '\\' || c == '$'
    (backquoted? rest).map fun (text, after) =>
      (if isProtected then c :: text else '\\' :: c :: text, after)
  | c :: rest => (backquoted? rest).map fun (text, after) => (c :: text, after)

-- ==================================================== variables

/-- Whether a character alone is the name of a variable that the shell sets. -/
def isSpecialName (c : Char) : Bool := c.isDigit || "@*#?$!-".toList.contains c

/-- The name of a variable at the start of a text, and what follows. -/
private def readName? (s : List Char) : Option (String × List Char) :=
  match s with
  | [] => none
  | c :: rest =>
    if isSpecialName c then some (c.toString, rest)
    else
      let name := s.takeWhile isNameChar
      if name.isEmpty then none else some (String.ofList name, s.drop name.length)

/-- What a sign behind the name of a variable says about the text behind it. -/
private def purpose? : Char → Option Purpose
  | '-' => some .fallback
  | '=' => some .assignment
  | '+' => some .substitute
  | '?' => some .complaint
  | _ => none

/-- A variable between braces. -/
private def readBraces (s : List Char) (isQuoted : Bool) : Piece :=
  let named (s : List Char) : Piece :=
    match readName? s with
    | none => .malformed
    | some (name, []) => .parameter name none isQuoted
    | some (name, rest) =>
      let (countsEmpty, rest) : Bool × List Char := match rest with
        | ':' :: more => (true, more)
        | _ => (false, rest)
      match rest with
      | [] => .malformed
      | sign :: text =>
        match purpose? sign with
        | some purpose => .parameter name (some ⟨purpose, countsEmpty, text⟩) isQuoted
        | none => .malformed
  match s with
  | '#' :: c :: rest =>
    match readName? (c :: rest) with
    | some (name, []) => .size name isQuoted
    | _ => named s
  | _ => named s

/-- What a dollar sign stands for, from behind it, and what follows. -/
private def readDollar (isQuoted : Bool) (s : List Char) : Except String (Piece × List Char) :=
  match s with
  | '(' :: '(' :: rest =>
    match enclosed? '(' ')' 0 .closed rest with
    | some (expression, ')' :: after) => .ok (.number expression isQuoted, after)
    | _ => .error "Missing '))'"
  | '(' :: rest =>
    match enclosed? '(' ')' 0 .closed rest with
    | some (script, after) => .ok (.output (String.ofList script) isQuoted, after)
    | none => .error (if rest.count '"' % 2 = 1 then openQuote else openBracket)
  | '\x7b' :: rest =>
    match enclosed? '\x7b' '\x7d' 0 .closed rest with
    | some (inside, after) => .ok (readBraces inside isQuoted, after)
    | none => .error "Missing '\x7d'"
  | _ =>
    match readName? s with
    | some (name, after) => .ok (.parameter name none isQuoted, after)
    | none => .ok (.text ['$'] isQuoted, s)

-- ==================================================== words

/-- Where pieces of a word are read. -/
inductive Surroundings where
  /-- In a script, where blanks and marks end a word. -/
  | script
  /-- Between double quotes. -/
  | doubleQuotes
  /-- In a text of its own, perhaps as if between double quotes. -/
  | alone (isQuoted : Bool)
deriving DecidableEq, Repr

namespace Surroundings

/-- Whether the characters count as quoted. -/
def isQuoted : Surroundings → Bool
  | script => false
  | doubleQuotes => true
  | alone isQuoted => isQuoted

/-- Whether a character is behind the last piece. -/
def stopsAt (place : Surroundings) (c : Char) : Bool :=
  match place with
  | script => " \t\n;&|<>()".toList.contains c
  | doubleQuotes => c == '"'
  | alone _ => false

end Surroundings

/--
The pieces between double quotes. They make a field even if there is nothing in it, except that
there may be no arguments.
-/
private def quotedWord (inside : Word) : Word :=
  if inside == [.parameter "@" none true] then inside else .text [] true :: inside

/-- The pieces at the start of a text with at most `fuel` characters, and what follows them. -/
def readPieces (fuel : Nat) (place : Surroundings) (s : List Char) :
    Except String (Word × List Char) :=
  match fuel, s with
  | _, [] => if place == .doubleQuotes then .error openQuote else .ok ([], [])
  | 0, s => .ok ([], s)
  | fuel + 1, c :: rest =>
    let goOn (pieces : Word) (rest : List Char) : Except String (Word × List Char) :=
      (readPieces fuel place rest).map fun (more, after) => (pieces ++ more, after)
    if place.stopsAt c then .ok ([], s)
    else
      match c, rest with
      | '\\', '\n' :: rest => goOn [] rest
      | '\\', d :: rest =>
        let isProtected := !place.isQuoted || "$\x60\"\\\x7d".toList.contains d
        goOn [.text (if isProtected then [d] else ['\\', d]) true] rest
      | '"', rest =>
        if place.isQuoted then goOn [] rest
        else
          match readPieces fuel .doubleQuotes rest with
          | .error e => .error e
          | .ok (inside, after) => goOn (quotedWord inside) (after.drop 1)
      | '\'', rest =>
        if place.isQuoted then goOn [.text ['\''] true] rest
        else
          let inside := rest.takeWhile (· != '\'')
          if inside.length = rest.length then .error openQuote
          else goOn [.text inside true] (rest.drop (inside.length + 1))
      | '\x60', rest =>
        match backquoted? rest with
        | some (script, after) =>
          goOn [.output (String.ofList script) place.isQuoted] after
        | none => .error "EOF in backquote substitution"
      | '$', rest =>
        match readDollar place.isQuoted rest with
        | .ok (piece, after) => goOn [piece] after
        | .error e => .error e
      | c, rest => goOn [.text [c] place.isQuoted] rest

/-- The pieces of a text of its own. -/
def readText (isQuoted : Bool) (s : List Char) : Except String Word :=
  (readPieces s.length (.alone isQuoted) s).map (·.1)

-- ==================================================== tokens

/-- A token of a script. -/
inductive Token where
  | word (word : Word)
  /-- A mark between commands. -/
  | mark (text : String)
  | newline
  | redirection (stream : Nat) (direction : Direction)
  /-- A place where nothing can be read. -/
  | broken (complaint : String)
  | finish
deriving Repr

/-- The marks, those first that begin like others and are longer. -/
def marks : List String := ["&&", "||", ";;", ";", "&", "|", "(", ")"]

/-- The signs of redirections, and the streams that they are for unless another one is given. -/
def directions : List (String × Nat × Direction) :=
  [(">>", 1, .append), (">&", 1, .copy), (">|", 1, .write), (">", 1, .write), ("<&", 0, .copy),
    ("<", 0, .read)]

/-- The first of some signs that a text begins with, and what follows. -/
private def leadingSign? (sign : α → String) (all : List α) (s : List Char) :
    Option (α × List Char) :=
  all.findSome? fun a => (Text.dropPrefix? (sign a).toList s).map (a, ·)

/-- A redirection at the start of a text, and what follows. -/
private def readRedirection? (s : List Char) : Option (Token × List Char) :=
  let (given, signs) : Option Nat × List Char := match s with
    | c :: rest => if c.isDigit then (some (c.toNat - '0'.toNat), rest) else (none, s)
    | [] => (none, s)
  (leadingSign? (·.1) directions signs).map fun ((_, stream, direction), after) =>
    (.redirection (given.getD stream) direction, after)

/-- The token at the start of a text, and what follows. -/
private def readToken (s : List Char) : Token × List Char :=
  match readRedirection? s, leadingSign? id marks s, s with
  | some found, _, _ => found
  | none, some (mark, after), _ => (.mark mark, after)
  | none, none, '\n' :: rest => (.newline, rest)
  | none, none, [] => (.finish, [])
  | none, none, s =>
    match readPieces s.length .script s with
    | .ok (word, after) => (.word word, after)
    | .error complaint => (.broken complaint, [])

/-- A text without the blanks and the comment at its start. -/
private def skip (s : List Char) : List Char :=
  let rec blanks : List Char → List Char
    | '\\' :: '\n' :: rest => blanks rest
    | c :: rest => if c == ' ' || c == '\t' then blanks rest else c :: rest
    | [] => []
  match blanks s with
  | '#' :: rest => rest.dropWhile (· != '\n')
  | s => s

/-- How many lines end in a text. -/
private def lineCount (s : List Char) : Nat := s.count '\n'

/-- The tokens of a text, of which the first line has the number `line`, each with its line. -/
def tokensFrom (fuel : Nat) (line : Nat) (s : List Char) : List (Token × Nat) :=
  match fuel with
  | 0 => []
  | fuel + 1 =>
    let start := skip s
    let line := line + lineCount (s.take (s.length - start.length))
    let (token, after) := readToken start
    let lineAfter := line + lineCount (start.take (start.length - after.length))
    match token with
    | .finish => [(token, line)]
    | .broken _ => [(token, lineAfter)]
    | _ => (token, line) :: tokensFrom fuel lineAfter after

/-- The tokens of a script, each with its line. -/
def tokens (script : String) : List (Token × Nat) :=
  tokensFrom (script.length + 1) 1 script.toList

end HostWatch.Shell
