/-
The commands that are a part of the shell, since they work on its state or
since it has a way of its own to do what a program does.
-/
import HostWatch.Programs
import HostWatch.Programs.Shell.State

namespace HostWatch.Shell.Builtin

/-- The largest number that commands take. -/
def maxNumber : Nat := 2147483647

/-- A number that a command takes. -/
private def number? (argument : String) : Option Nat :=
  (Decimal.readDigits? argument.toList).filter (· ≤ maxNumber)

/-- Calls something with the number that is the first argument, if there is one. -/
private def withNumber (name : String) (s : State) (arguments : List String) (absent : Nat)
    (act : Nat → State) : State :=
  match arguments with
  | [] => act absent
  | argument :: _ =>
    match number? argument with
    | some n => act n
    | none => s.abort s!"{name}: Illegal number: {argument}"

-- ==================================================== printing

/-- Prints its arguments, in which backslashes count. -/
def echo (s : State) (arguments : List String) : State :=
  let (ending, arguments) : List UInt8 × List String := match arguments with
    | "-n" :: rest => ([], rest)
    | _ => ([10], arguments)
  let expanded :=
    Escape.expand { octal := .long, hexadecimal := false } (" ".intercalate arguments)
  { s.print (expanded.bytes ++ if expanded.stops then [] else ending) with status := 0 }

/-- Prints its arguments by a format. -/
def printf (s : State) : List String → State
  | [] => s.fail "printf: usage: printf format [arg ...]" 2
  | "--" :: format :: arguments | format :: arguments =>
    s.add (Format.print (.shell s.name s.line) format arguments)

-- ==================================================== signals

/-- The number of the last signal. -/
def lastSignal : Nat := 64

/-- The number of a signal that is given by its number or its name. -/
def signal? (text : String) : Option Nat :=
  match Decimal.readDigits? text.toList with
  | some n => if n ≤ lastSignal then some n else none
  | none =>
    let upper := String.ofList (text.toList.map Char.toUpper)
    if upper == "EXIT" then some 0
    else if signalNames.contains upper then some (signalNames.idxOf upper + 1)
    else none

/-- The signals that end no process. -/
def harmlessSignals : List Nat := [0, 17, 18, 19, 20, 21, 22, 23, 28]

/-- How `kill` is used. -/
private def killUsage : String :=
  "kill: Usage: kill [-s sigspec | -signum | -sigspec] [pid | job]... or\nkill -l [exitstatus]"

/-- Sends a signal to processes. -/
private def send (s : State) (signal : Nat) (processes : List String) : State :=
  match processes with
  | [] => s.fail killUsage 2
  | text :: rest =>
    match number? text with
    | none => s.fail s!"kill: Illegal number: {text}" 2
    | some process =>
      if process < 1000 || s.process < process then s.fail "kill: No such process" 1
      else if harmlessSignals.contains signal then
        if rest.isEmpty then { s with status := 0 } else send s signal rest
      else { s with stop := some (.killed process signal) }

/-- Sends a signal to the shell. -/
def kill (s : State) : List String → State
  | [] => s.fail killUsage 2
  | "--" :: processes => send s 15 processes
  | "-s" :: text :: processes =>
    match signal? text with
    | some signal => send s signal processes
    | none => s.fail s!"kill: invalid signal number or name: {text}" 2
  | first :: processes =>
    match first.toList with
    | '-' :: c :: letters =>
      match signal? (String.ofList (c :: letters)) with
      | some signal => send s signal processes
      | none => s.fail s!"kill: Illegal option -{c}" 2
    | _ => send s 15 (first :: processes)

-- ==================================================== variables

/-- Cuts an argument into the name of a variable and its value, if it has one. -/
private def cutAssignment (argument : String) : String × Option String :=
  match Text.splitFirst? '=' argument.toList with
  | some (name, value) => (String.ofList name, some (String.ofList value))
  | none => (argument, none)

/-- Shows variables to programs, perhaps with new values. -/
def exportValues (s : State) (arguments : List String) : State :=
  arguments.foldl (fun s argument =>
    let (name, value) := cutAssignment argument
    if s.stop.isSome || argument.startsWith "-" then s
    else if !isName name.toList then s.abort s!"export: {name}: bad variable name"
    else
      match value with
      | some value => (s.set name value).share name
      | none => s.share name) { s with status := 0 }

/-- Gives variables values for good. -/
def readonly (s : State) (arguments : List String) : State :=
  arguments.foldl (fun s argument =>
    match cutAssignment argument with
    | (name, some value) => s.set name value
    | _ => s) { s with status := 0 }

/-- Forgets variables. -/
def unset (s : State) (arguments : List String) : State :=
  arguments.foldl (fun s name => if name.startsWith "-" then s else s.unset name)
    { s with status := 0 }

/-- Sets options and arguments. -/
def set (s : State) : List String → State
  | [] => { s with status := 0 }
  | "--" :: arguments => { s with arguments, status := 0 }
  | first :: rest =>
    let switch (value : Bool) (letters : List Char) : State :=
      letters.foldl (fun s c =>
        if c == 'e' then { s with stopsAtFailure := value }
        else if c == 'u' then { s with demandsValues := value }
        else s) s
    match first.toList with
    | '-' :: c :: letters => set (switch true (c :: letters)) rest
    | '+' :: c :: letters => set (switch false (c :: letters)) rest
    | _ => { s with arguments := first :: rest, status := 0 }

/-- Drops the first arguments of the script. -/
def shift (s : State) (arguments : List String) : State :=
  withNumber "shift" s arguments 1 fun n =>
    if s.arguments.length < n then s.abort "shift: can't shift that many"
    else { s with arguments := s.arguments.drop n, status := 0 }

/-- Gives variables the words of a line; the last one gets all that is left. -/
private def assignWords (s : State) (line : List Char) : List String → State
  | [] => s
  | [name] => s.set name (String.ofList (Text.trim line))
  | name :: more =>
    let start := Text.trimStart line
    let word := start.takeWhile fun c => c != ' ' && c != '\t'
    assignWords (s.set name (String.ofList word)) (start.drop word.length) more

/-- Reads a line into variables; it fails if the input ends within the line. -/
def read (s : State) (arguments : List String) : State :=
  let names := arguments.filter fun name => !name.startsWith "-"
  let line := s.input.takeWhile (· != 10)
  let isComplete := line.length < s.input.length
  let after := { s with
    input := s.input.drop (line.length + 1), status := if isComplete then 0 else 1 }
  if names.isEmpty then s.fail "read: arg count" 2
  else assignWords after (Text.ofBytes ⟨line.toArray⟩).toList names

-- ==================================================== ends

/-- Ends the script. -/
def exit (s : State) (arguments : List String) : State :=
  withNumber "exit" s arguments s.status fun n => s.exit (n % 256)

/-- Ends a command with a name. -/
def leaveDefinition (s : State) (arguments : List String) : State :=
  withNumber "return" s arguments s.status fun n => { s with status := n, stop := some .returned }

/-- Ends loops, or the rounds of loops. -/
def leave (name : String) (goesOn : Bool) (s : State) (arguments : List String) : State :=
  withNumber name s arguments 1 fun n =>
    if n = 0 then s.abort s!"{name}: Illegal number: 0"
    else if s.loopDepth = 0 then { s with status := 0 }
    else { s with status := 0, stop := some (.loops (min n s.loopDepth) goesOn) }

-- ==================================================== all of them

/-- The commands that end the script if something is wrong with their redirections. -/
def special : List String :=
  [":", ".", "break", "continue", "eval", "exec", "exit", "export", "readonly", "return", "set",
    "shift", "times", "trap", "unset"]

/-- Does nothing. -/
private def doNothing (s : State) (_ : List String) : State := { s with status := 0 }

/-- The command of a name. -/
def find? : String → Option (State → List String → State)
  | ":" | "true" | "wait" | "trap" | "umask" | "alias" => some doNothing
  | "false" => some fun s _ => { s with status := 1 }
  | "echo" => some echo
  | "printf" => some printf
  | "test" => some fun s arguments =>
    s.add (Programs.test s.disk .shell s!"{s.name}: {s.line}: test" arguments)
  | "[" => some fun s arguments =>
    s.add (Programs.bracket s.disk .shell s!"{s.name}: {s.line}: [" arguments)
  | "kill" => some kill
  | "export" => some exportValues
  | "readonly" => some readonly
  | "unset" => some unset
  | "set" => some set
  | "shift" => some shift
  | "read" => some read
  | "exit" => some exit
  | "return" => some leaveDefinition
  | "break" => some (leave "break" false)
  | "continue" => some (leave "continue" true)
  | _ => none

end HostWatch.Shell.Builtin
