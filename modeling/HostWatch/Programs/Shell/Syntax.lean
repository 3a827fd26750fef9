/-
What scripts of the shell are made of: words with variables in them,
redirections of what is read and written, and commands.
-/

namespace HostWatch.Shell

-- ==================================================== words

/-- What the text behind the name of a variable is for. -/
inductive Purpose where
  /-- It stands for the variable if that is not set. -/
  | fallback
  /-- It stands for the variable if that is not set, and the variable is set to it. -/
  | assignment
  /-- It stands for the variable if that is set. -/
  | substitute
  /-- It is the complaint if the variable is not set. -/
  | complaint
deriving DecidableEq, Repr

/-- A text behind the name of a variable. -/
structure Adjustment where
  purpose : Purpose
  /-- Whether a variable without a text counts as one that is not set. -/
  countsEmpty : Bool
  text : List Char
deriving DecidableEq, Repr

/-- A part of a word. -/
inductive Piece where
  | text (chars : List Char) (isQuoted : Bool)
  | parameter (name : String) (adjustment : Option Adjustment) (isQuoted : Bool)
  /-- The number of characters of a variable. -/
  | size (name : String) (isQuoted : Bool)
  /-- The output of a script. -/
  | output (script : String) (isQuoted : Bool)
  /-- The value of an expression with numbers. -/
  | number (expression : List Char) (isQuoted : Bool)
  /-- A variable in a form that there is not. -/
  | malformed
deriving DecidableEq, Repr

/-- A word as it is written. -/
abbrev Word := List Piece

/-- Whether a character may be in the name of a variable, or else at its start. -/
def isNameChar (c : Char) : Bool := c.isAlphanum || c == '_'

/-- Whether some characters are the name of a variable. -/
def isName : List Char → Bool
  | [] => false
  | c :: rest => isNameChar c && !c.isDigit && rest.all isNameChar

namespace Word

/-- The characters of a word that holds nothing else and no quotes. -/
def plain? : Word → Option (List Char)
  | [] => some []
  | .text chars false :: rest => (plain? rest).map (chars ++ ·)
  | _ => none

/-- The characters at the start of a word, as long as they are neither quoted nor replaced. -/
def lead : Word → List Char
  | .text chars false :: rest => chars ++ lead rest
  | _ => []

/-- A word without the first characters of its lead. -/
def dropLead (count : Nat) : Word → Word
  | .text chars false :: rest =>
    if count < chars.length then .text (chars.drop count) false :: rest
    else dropLead (count - chars.length) rest
  | word => word

/-- The variable that a word gives a value to, and the word for the value. -/
def assignment? (word : Word) : Option (String × Word) :=
  let name := word.lead.takeWhile (· != '=')
  if isName name && name.length < word.lead.length then
    some (String.ofList name, word.dropLead (name.length + 1))
  else none

end Word

-- ==================================================== commands

/-- What a redirection does. -/
inductive Direction where
  | read
  | write
  | append
  /-- One stream goes where another one goes. -/
  | copy
deriving DecidableEq, Repr

/-- A redirection of a stream. -/
structure Redirection where
  stream : Nat
  direction : Direction
  target : Word
deriving Repr

/-- A command of a script. -/
inductive Command where
  | nothing
  | simple (line : Nat) (words : List Word) (redirections : List Redirection)
  | negated (command : Command)
  /-- The second one reads what the first one prints. -/
  | piped (first second : Command)
  /-- The second one runs if the first one succeeds. -/
  | both (first second : Command)
  /-- The second one runs if the first one fails. -/
  | either (first second : Command)
  | sequence (first second : Command)
  /-- Nothing waits for its end. -/
  | aside (command : Command)
  /-- What it does to variables is forgotten. -/
  | subshell (command : Command)
  | redirected (line : Nat) (command : Command) (redirections : List Redirection)
  | choice (condition yes no : Command)
  /-- The body runs again and again as long as the condition ends as wanted. -/
  | loop (wanted : Bool) (condition body : Command)
  /-- The body runs for each item, or for each argument of the script. -/
  | each (name : String) (items : Option (List Word)) (body : Command)
  /-- Gives a command a name. -/
  | definition (name : String) (body : Command)
deriving Repr

end HostWatch.Shell
