/-
Reading the commands of a script. Commands are read one line after the
other, so that a script runs up to the line in which something is wrong.

The words that have a meaning of their own, such as `if`, have it only
where a command may begin.
-/
import HostWatch.Programs.Shell.Token

namespace HostWatch.Shell

-- ==================================================== tokens

/-- What is wrong with a script, and in which line. -/
structure Complaint where
  line : Nat
  text : String
deriving DecidableEq, Repr

/-- The tokens that are still to be read. -/
abbrev Tokens := List (Token × Nat)

/-- What comes of reading a command: it, and the tokens behind it. -/
abbrev CommandRead := Except Complaint (Command × Tokens)

/-- The words that have a meaning of their own. -/
def reserved : List String :=
  ["!", "case", "do", "done", "elif", "else", "esac", "fi", "for", "if", "in", "then", "until",
    "while", "\x7b", "\x7d"]

namespace Token

/-- The reserved word that a token is, if it is one. -/
def reserved? : Token → Option String
  | word w => (Word.plain? w).map String.ofList |>.filter (Shell.reserved.contains ·)
  | _ => none

/-- What a token is called when it is in the wrong place. -/
private def name (t : Token) : String :=
  match t with
  | word _ => (t.reserved?.map fun text => s!"\"{text}\"").getD "word"
  | mark text => s!"\"{text}\""
  | newline => "newline"
  | redirection _ _ => "redirection"
  | broken complaint => complaint
  | finish => "end of file"

end Token

/-- The first of some tokens, and those behind it. -/
private def nextToken : Tokens → (Token × Nat) × Tokens
  | [] => ((.finish, 1), [])
  | [last] => (last, [last])
  | first :: rest => (first, rest)

/-- What is said of a token in the wrong place, perhaps with what should be there. -/
private def unexpected (tokens : Tokens) (wanted : Option String) : Complaint :=
  let ((token, line), _) := nextToken tokens
  match token with
  | .broken complaint => ⟨line, complaint⟩
  | _ =>
    let expectation := (wanted.map fun text => s!" (expecting \"{text}\")").getD ""
    ⟨line, s!"{token.name} unexpected{expectation}"⟩

/-- The tokens behind line ends. -/
private def skipNewlines : Tokens → Tokens
  | (.newline, _) :: rest => skipNewlines rest
  | tokens => tokens

/-- Reads a reserved word or a mark. -/
private def expect (wanted : String) (tokens : Tokens) : Except Complaint Tokens :=
  let ((token, _), rest) := nextToken tokens
  let isWanted := match token with
    | .mark text => text == wanted
    | token => token.reserved? == some wanted
  if isWanted then .ok rest else .error (unexpected tokens (some wanted))

-- ==================================================== simple commands

/-- Reads the target of a redirection. -/
private def readTarget (stream : Nat) (direction : Direction) (tokens : Tokens) :
    Except Complaint (Redirection × Tokens) :=
  match tokens with
  | (.word target, _) :: rest => .ok (⟨stream, direction, target⟩, rest)
  | _ => .error (unexpected tokens none)

/-- Reads redirections. -/
private def readRedirections (fuel : Nat) (tokens : Tokens) :
    Except Complaint (List Redirection × Tokens) :=
  match fuel, tokens with
  | fuel + 1, (.redirection stream direction, _) :: rest => do
    let (first, rest) ← readTarget stream direction rest
    let (more, rest) ← readRedirections fuel rest
    .ok (first :: more, rest)
  | _, tokens => .ok ([], tokens)

/-- Reads the words and the redirections of a simple command. -/
private def readSimple (fuel : Nat) (tokens : Tokens) :
    Except Complaint ((List Word × List Redirection) × Tokens) :=
  match fuel, tokens with
  | fuel + 1, (.word word, _) :: rest => do
    let ((words, redirections), rest) ← readSimple fuel rest
    .ok ((word :: words, redirections), rest)
  | fuel + 1, (.redirection stream direction, _) :: rest => do
    let (first, rest) ← readTarget stream direction rest
    let ((words, redirections), rest) ← readSimple fuel rest
    .ok ((words, first :: redirections), rest)
  | _, tokens => .ok (([], []), tokens)

-- ==================================================== commands of commands

/-- What reads a command. -/
abbrev Parser := Tokens → CommandRead

/-- Reads the commands of a pipeline behind the first one. -/
private def readPiped (parse : Parser) (fuel : Nat) (first : Command) (tokens : Tokens) :
    CommandRead :=
  match fuel, tokens with
  | fuel + 1, (.mark "|", _) :: rest => do
    let (next, rest) ← parse (skipNewlines rest)
    readPiped parse fuel (.piped first next) rest
  | _, tokens => .ok (first, tokens)

/-- Reads a pipeline. -/
private def readPipeline (parse : Parser) (tokens : Tokens) : CommandRead := do
  let ((token, _), rest) := nextToken tokens
  let isNegated := token.reserved? == some "!"
  let (first, rest) ← parse (if isNegated then rest else tokens)
  let (all, rest) ← readPiped parse rest.length first rest
  .ok (if isNegated then .negated all else all, rest)

/-- Reads the pipelines that depend on the ones before, behind the first one. -/
private def readDependent (parse : Parser) (fuel : Nat) (first : Command) (tokens : Tokens) :
    CommandRead :=
  match fuel, tokens with
  | fuel + 1, (.mark "&&", _) :: rest => do
    let (next, rest) ← readPipeline parse (skipNewlines rest)
    readDependent parse fuel (.both first next) rest
  | fuel + 1, (.mark "||", _) :: rest => do
    let (next, rest) ← readPipeline parse (skipNewlines rest)
    readDependent parse fuel (.either first next) rest
  | _, tokens => .ok (first, tokens)

/-- Reads a pipeline and those that depend on it. -/
private def readChain (parse : Parser) (tokens : Tokens) : CommandRead := do
  let (first, rest) ← readPipeline parse tokens
  readDependent parse rest.length first rest

/-- Whether a list of commands within another command ends here. -/
private def closesList (t : Token) : Bool :=
  match t with
  | .mark text => text == ")" || text == ";;"
  | .finish => true
  | t => t.reserved?.any fun text =>
    ["then", "elif", "else", "fi", "do", "done", "esac", "\x7d"].contains text

/-- Reads the list of commands within another command. -/
private def readList (parse : Parser) (fuel : Nat) (tokens : Tokens) : CommandRead := do
  let (first, rest) ← readChain parse (skipNewlines tokens)
  let ((token, _), after) := nextToken rest
  let goOn (first : Command) : CommandRead := do
    let after := skipNewlines after
    match fuel with
    | 0 => .ok (first, after)
    | fuel + 1 =>
      if closesList (nextToken after).1.1 then .ok (first, after)
      else
        let (more, rest) ← readList parse fuel after
        .ok (.sequence first more, rest)
  match token with
  | .newline | .mark ";" => goOn first
  | .mark "&" => goOn (.aside first)
  | _ => .ok (first, rest)

/-- Reads what follows the condition of a choice. -/
private def readBranches (parse : Parser) (fuel : Nat) (condition : Command) (tokens : Tokens) :
    CommandRead := do
  let rest ← expect "then" tokens
  let (yes, rest) ← readList parse rest.length rest
  let ((token, _), after) := nextToken rest
  match token.reserved?, fuel with
  | some "elif", fuel + 1 =>
    let (inner, after) ← readList parse after.length after
    let (no, rest) ← readBranches parse fuel inner after
    .ok (.choice condition yes no, rest)
  | some "else", _ =>
    let (no, rest) ← readList parse after.length after
    let rest ← expect "fi" rest
    .ok (.choice condition yes no, rest)
  | _, _ =>
    let rest ← expect "fi" rest
    .ok (.choice condition yes .nothing, rest)

/-- Reads the body of a loop. -/
private def readBody (parse : Parser) (tokens : Tokens) : CommandRead := do
  let rest ← expect "do" tokens
  let (body, rest) ← readList parse rest.length rest
  let rest ← expect "done" rest
  .ok (body, rest)

/-- The words at the start of some tokens, and what follows. -/
private def spanWords : Tokens → List Word × Tokens
  | (.word word, _) :: rest =>
    let (words, rest) := spanWords rest
    (word :: words, rest)
  | tokens => ([], tokens)

/-- Reads a loop over items, from behind its first word. -/
private def readEach (parse : Parser) (tokens : Tokens) : CommandRead := do
  let ((token, line), rest) := nextToken tokens
  let name? := match token with
    | .word w => (Word.plain? w).filter isName
    | _ => none
  match name? with
  | none => .error ⟨line, "Bad for loop variable"⟩
  | some name =>
    let name := String.ofList name
    let behind := skipNewlines rest
    let ((token, _), after) := nextToken behind
    match token with
    | .mark ";" =>
      let (body, rest) ← readBody parse (skipNewlines after)
      .ok (.each name none body, rest)
    | _ =>
      if token.reserved? == some "in" then
        let (items, rest) := spanWords after
        let ((token, _), after) := nextToken rest
        match token with
        | .newline | .mark ";" =>
          let (body, rest) ← readBody parse (skipNewlines after)
          .ok (.each name (some items) body, rest)
        | _ => .error (unexpected rest none)
      else
        let (body, rest) ← readBody parse behind
        .ok (.each name none body, rest)

/-- Reads the redirections behind a command. -/
private def redirect (line : Nat) (command : Command) (tokens : Tokens) : CommandRead := do
  let (redirections, rest) ← readRedirections tokens.length tokens
  .ok (if redirections.isEmpty then command else .redirected line command redirections, rest)

/-- Reads a simple command, or a command with its name. -/
private def readNamed (parse : Parser) (line : Nat) (tokens : Tokens) : CommandRead := do
  let named? := match tokens with
    | (.word w, _) :: (.mark "(", _) :: rest => some (w, rest)
    | _ => none
  match named? with
  | some (w, rest) =>
    let rest ← expect ")" rest
    let (body, rest) ← parse (skipNewlines rest)
    match (Word.plain? w).filter isName with
    | some name => .ok (.definition (String.ofList name) body, rest)
    | none => .error ⟨line, "Bad function name"⟩
  | none =>
    let ((words, redirections), rest) ← readSimple tokens.length tokens
    match rest with
    | (.mark "(", _) :: after =>
      let _ ← expect ")" after
      .error ⟨line, "Bad function name"⟩
    | _ =>
      if words.isEmpty && redirections.isEmpty then .error (unexpected tokens none)
      else .ok (.simple line words redirections, rest)

/-- Reads a command; `fuel` bounds how deep commands are nested. -/
def readCommand (fuel : Nat) (tokens : Tokens) : CommandRead :=
  match fuel with
  | 0 => .error (unexpected tokens none)
  | fuel + 1 => do
    let parse := readCommand fuel
    let list (tokens : Tokens) : CommandRead := readList parse tokens.length tokens
    let ((token, line), rest) := nextToken tokens
    match token, token.reserved? with
    | .mark "(", _ =>
      let (inside, rest) ← list rest
      let rest ← expect ")" rest
      redirect line (.subshell inside) rest
    | _, some "\x7b" =>
      let (inside, rest) ← list rest
      let rest ← expect "\x7d" rest
      redirect line inside rest
    | _, some "if" =>
      let (condition, rest) ← list rest
      let (command, rest) ← readBranches parse rest.length condition rest
      redirect line command rest
    | _, some "while" | _, some "until" =>
      let (condition, rest) ← list rest
      let (body, rest) ← readBody parse rest
      redirect line (.loop (token.reserved? == some "while") condition body) rest
    | _, some "for" =>
      let (command, rest) ← readEach parse rest
      redirect line command rest
    | _, some _ => .error (unexpected tokens none)
    | _, none => readNamed parse line tokens

-- ==================================================== lines

/-- Reads the commands of a line. -/
private def readRow (fuel : Nat) (tokens : Tokens) : CommandRead := do
  let (first, rest) ← readChain (readCommand tokens.length) tokens
  let ((token, _), after) := nextToken rest
  let goOn (first : Command) : CommandRead := do
    match fuel, (nextToken after).1.1 with
    | _, .finish => .ok (first, after)
    | _, .newline => .ok (first, (nextToken after).2)
    | 0, _ => .ok (first, after)
    | fuel + 1, _ =>
      let (more, rest) ← readRow fuel after
      .ok (.sequence first more, rest)
  match token with
  | .mark ";" => goOn first
  | .mark "&" => goOn (.aside first)
  | .newline | .finish => .ok (first, after)
  | _ => .error (unexpected rest none)

/-- Reads the next line of a script that holds commands, if there is one. -/
def readLine? (tokens : Tokens) : Option (CommandRead) :=
  let rest := skipNewlines tokens
  match nextToken rest with
  | ((.finish, _), _) => none
  | _ => some (readRow rest.length rest)

end HostWatch.Shell
