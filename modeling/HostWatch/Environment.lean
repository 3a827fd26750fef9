/-
Environment variables, and the assignments in a file that complete them.

An assignment may go over several lines where a quote is open. Its value
may be quoted, and it may refer to variables that are set already.
-/
import HostWatch.SortedMap
import HostWatch.Text.Blank
import HostWatch.Text.Split
import HostWatch.Text.WordChar

namespace HostWatch

/-- The environment variables that are set. -/
abbrev Environment := SortedMap String String

namespace Environment

-- ==================================================== lines

/-- Where in a line of assignments a character stands. -/
inductive LineSpot where
  | plain
  | blank
  | escaped
  | strong
  | strongEscaped
  | weak
  | weakEscaped
deriving DecidableEq, Repr

/-- Where the next character stands; nothing, if a comment begins. -/
private def LineSpot.next? (spot : LineSpot) (c : Char) : Option LineSpot :=
  let opening : LineSpot :=
    if c == '\\' then .escaped else if c == '"' then .weak else if c == '\'' then .strong
    else .plain
  match spot with
  | .blank => if c == '#' then none else some opening
  | .plain =>
    if Text.isBlank c && c != '\n' && c != '\r' then some .blank else some opening
  | .escaped => some .plain
  | .weak => some (if c == '\\' then .weakEscaped else if c == '"' then .plain else .weak)
  | .weakEscaped => some .weak
  | .strong => some (if c == '\\' then .strongEscaped else if c == '\'' then .plain else .strong)
  | .strongEscaped => some .strong

/-- What stands in a line before a comment, and where the line ends if there is none. -/
private def scan (spot : LineSpot) : List Char → List Char × Option LineSpot
  | [] => ([], some spot)
  | c :: rest =>
    match spot.next? c with
    | none => ([], none)
    | some next =>
      let (before, ending) := scan next rest
      (c :: before, ending)

/-- The assignments of some lines; `none` stands for one that is not complete. -/
private def joinLines (done : List Char) (spot : LineSpot) :
    List (List Char) → List (Option (List Char))
  | [] => if spot = .plain then [] else [none]
  | line :: rest =>
    if (Text.trimStart (done ++ line)).head? == some '#' then some [] :: joinLines [] .plain rest
    else
      match scan spot line with
      | (before, none) => some (done ++ before) :: joinLines [] .plain rest
      | (_, some .plain) => some (Text.stripLineEnd (done ++ line)) :: joinLines [] .plain rest
      | (_, some spot) => joinLines (done ++ line) spot rest

-- ==================================================== values

/-- Where in a value a character stands. -/
inductive ValueSpot where
  | plain
  | strong
  | escaped
  /-- Behind the end of the value. -/
  | after
  /-- In the name of a variable. -/
  | name
  /-- In the name of a variable between braces. -/
  | bracedName
deriving DecidableEq, Repr

/-- How far a value has been read. -/
structure ValueReading where
  spot : ValueSpot := .plain
  /-- Whether a double quote is open. -/
  quoted : Bool := false
  /-- The value so far. -/
  value : List Char := []
  /-- The name of the variable that is being read. -/
  name : List Char := []

namespace ValueReading

/-- Adds characters to the value. -/
private def push (r : ValueReading) (s : List Char) : ValueReading :=
  { r with value := r.value ++ s, spot := .plain }

/-- Puts in the value of the variable whose name has been read. -/
private def substitute (r : ValueReading) (known : Environment) : ValueReading :=
  { r.push ((known.get? (String.ofList r.name)).getD "").toList with name := [] }

/-- The character that an escaped one stands for. -/
private def escape? (c : Char) : Option Char :=
  if c == '\\' || c == '\'' || c == '"' || c == '$' || c == ' ' then some c
  else if c == 'n' then some '\n'
  else none

/-- Takes a character outside of single quotes, names and escapes. -/
private def takePlain (r : ValueReading) (c : Char) : ValueReading :=
  if c == '$' then { r with spot := .name }
  else if c == '\\' then { r with spot := .escaped }
  else if c == '"' then { r with quoted := !r.quoted, spot := .plain }
  else if r.quoted then r.push [c]
  else if c == '\'' then { r with spot := .strong }
  else if c == ' ' || c == '\t' then { r with spot := .after }
  else r.push [c]

/-- Takes a character behind the name of a variable. -/
private def takeAfterName (r : ValueReading) (known : Environment) (c : Char) : ValueReading :=
  let r := r.substitute known
  if c == '$' then { r with spot := .name } else r.push [c]

/-- Takes a character; nothing, if it must not stand there. -/
private def take? (known : Environment) (r : ValueReading) (c : Char) : Option ValueReading :=
  match r.spot with
  | .after => if c == ' ' || c == '\t' then some r else none
  | .escaped => (escape? c).map fun c => r.push [c]
  | .strong =>
    some (if c == '\'' then { r with spot := .plain } else { r with value := r.value ++ [c] })
  | .name =>
    if Text.isAlphanumeric c then some { r with name := r.name ++ [c] }
    else if c == '\x7b' && r.name.isEmpty then some { r with spot := .bracedName }
    else some (r.takeAfterName known c)
  | .bracedName =>
    if c == '\x7d' then some (r.substitute known) else some { r with name := r.name ++ [c] }
  | .plain => some (r.takePlain c)

/-- Takes the characters of a value up to a comment. -/
private def takeAll? (known : Environment) (r : ValueReading) : List Char → Option ValueReading
  | [] => some r
  | c :: rest =>
    if r.spot = .after ∧ c = '#' then some r
    else (take? known r c).bind fun r => takeAll? known r rest

/-- The value that has been read, if it is complete. -/
private def finish? (r : ValueReading) (known : Environment) : Option (List Char) :=
  if r.spot = .bracedName ∨ r.spot = .strong ∨ r.quoted then none
  else if r.spot = .name then some (r.substitute known).value
  else some r.value

end ValueReading

/-- The value that a text denotes. -/
def readValue? (known : Environment) (s : List Char) : Option (List Char) :=
  (ValueReading.takeAll? known {} s).bind fun r => r.finish? known

-- ==================================================== assignments

/-- Whether a character may begin the name of a variable. -/
private def beginsName (c : Char) : Bool := c.isAlpha || c == '_'

/-- Whether a character may stand in the name of a variable. -/
private def continuesName (c : Char) : Bool := c.isAlphanum || c == '_' || c == '.'

/-- The name at the start of a text, and what follows behind blanks. -/
private def readName? (s : List Char) : Option (List Char × List Char) :=
  match s with
  | c :: _ =>
    if beginsName c then
      some (s.takeWhile continuesName, Text.trimStart (s.dropWhile continuesName))
    else none
  | [] => none

/-- A name with the text of its value; the word `export` may stand in front. -/
private def readAssignment? (s : List Char) : Option (List Char × List Char) := do
  let (first, rest) ← readName? s
  match rest with
  | '=' :: value => pure (first, Text.trimStart value)
  | _ =>
    if first = "export".toList then
      match ← readName? rest with
      | (name, '=' :: value) => pure (name, Text.trimStart value)
      | _ => none
    else none

/-- What is known when the lines of a file have been read up to some point. -/
private structure Reading where
  known : Environment
  /-- What the file says, whether it counts or not. -/
  said : Environment := ∅
  /-- Whether there has been an error, behind which nothing counts. -/
  failed : Bool := false
  /-- Whether a variable was to have a value that no variable can have. -/
  impossible : Bool := false

/-- Sets a variable. One that is set already stays as it is, and no value has a character 0. -/
private def Reading.set (r : Reading) (name value : List Char) : Reading :=
  let key := String.ofList name
  let said := r.said.insert key (String.ofList value)
  if r.known.contains key then { r with said }
  else if value.contains '\x00' then { r with said, failed := true, impossible := true }
  else { r with said, known := r.known.insert key (String.ofList value) }

/-- Takes an assignment. -/
private def Reading.take (r : Reading) (line : Option (List Char)) : Reading :=
  if r.failed then r
  else
    match line.map Text.trim with
    | none => { r with failed := true }
    | some [] | some ('#' :: _) => r
    | some text =>
      let result := (readAssignment? text).bind fun (name, rest) =>
        let value :=
          if rest.isEmpty || rest.head? == some '#' then some []
          else readValue? (r.said.overlay r.known) rest
        value.map (name, ·)
      match result with
      | none => { r with failed := true }
      | some (name, value) => r.set name value

/-- A text without a byte order mark. -/
private def dropMark (s : List Char) : List Char :=
  match s with
  | '\uFEFF' :: rest => rest
  | _ => s

/--
The variables after the assignments of a text, up to the first one that is malformed; nothing, if
one of them cannot be made.
-/
def complete? (known : Environment) (text : String) : Option Environment :=
  let r := (joinLines [] .plain (Text.lineBlocks (dropMark text.toList))).foldl Reading.take
    { known : Reading }
  if r.impossible then none else some r.known

end Environment

end HostWatch
