/-
What the commands of a script work on: variables, files, the streams that
they write to, and whether the script goes on.

A stream writes into a buffer, into a file or nowhere. The first two
buffers hold what the whole script prints and what it says of errors; a
pipe and the output of a script within a word have buffers of their own.
-/
import HostWatch.Fetch.Read
import HostWatch.Programs.Shell.Syntax

namespace HostWatch.Shell

/-- Where a stream writes to. -/
inductive Sink where
  | buffer (index : Nat)
  | file (path : Path)
  | nowhere
deriving DecidableEq, Repr

/-- Why a script does not go on. -/
inductive Stop where
  | exited (status : Nat)
  /-- A signal ends a process, which is this one or one that waits for it. -/
  | killed (process signal : Nat)
  /-- So many loops end, and the last one of them goes on with its next round if it is so asked. -/
  | loops (count : Nat) (goesOn : Bool)
  /-- A command with a name ends. -/
  | returned
deriving DecidableEq, Repr

/-- The state of a script that runs. -/
structure State where
  disk : Disk
  /-- The name that it goes by. -/
  name : String := "sh"
  arguments : List String := []
  /-- The number of the process. -/
  process : Nat := 1000
  values : SortedMap String String := ∅
  /-- The variables that programs see. -/
  exported : List String := []
  definitions : SortedMap String Command := ∅
  /-- How the last command ended. -/
  status : Nat := 0
  /-- How the last script within a word ended, if there was one in this command. -/
  innerStatus : Option Nat := none
  /-- The line of the command that runs. -/
  line : Nat := 1
  /-- Whether a failure ends the script. -/
  stopsAtFailure : Bool := false
  /-- Whether a variable has to be set. -/
  demandsValues : Bool := false
  /-- How many loops are under way. -/
  loopDepth : Nat := 0
  input : List UInt8 := []
  buffers : List (List UInt8) := [[], []]
  output : Sink := .buffer 0
  errors : Sink := .buffer 1
  stop : Option Stop := none

namespace State

-- ==================================================== output

/-- Writes to a sink. -/
private def writeTo (s : State) (sink : Sink) (bytes : List UInt8) : State :=
  match sink with
  | .nowhere => s
  | .buffer index => { s with buffers := s.buffers.modify index (· ++ bytes) }
  | .file path =>
    match (s.disk.read path).bind fun old => s.disk.write path (old ++ ⟨bytes.toArray⟩) with
    | .ok disk => { s with disk }
    | .error _ => s

/-- Prints some bytes. -/
def print (s : State) (bytes : List UInt8) : State := s.writeTo s.output bytes

/-- Prints some bytes to where errors go. -/
def printError (s : State) (bytes : List UInt8) : State := s.writeTo s.errors bytes

/-- Prints what a program has printed, and takes over how it has ended. -/
def add (s : State) (result : ProgramResult) : State :=
  let printed := (s.print result.output.toList).printError result.errors.toList
  { printed with status := match result.ending with
    | .exited status => status
    | .killed signal => 128 + signal }

/-- Says what is wrong in a line. -/
def complainAt (s : State) (line : Nat) (message : String) : State :=
  s.printError s!"{s.name}: {line}: {message}\n".toUTF8.toList

/-- Says what is wrong. -/
def complain (s : State) (message : String) : State := s.complainAt s.line message

-- ==================================================== ends

/-- Ends the script. -/
def exit (s : State) (status : Nat) : State := { s with status, stop := some (.exited status) }

/-- Says what is wrong, which makes a command fail. -/
def fail (s : State) (message : String) (status : Nat) : State :=
  { s.complain message with status }

/-- Says what is wrong and ends the script. -/
def abort (s : State) (message : String) : State := (s.complain message).exit 2

/-- What is said of a process that a signal has ended, unless nothing is. -/
def obituary? (signal : Nat) : Option String :=
  let names := ["Hangup", "", "Quit", "Illegal instruction", "Trace/breakpoint trap", "Aborted",
    "Bus error", "Floating point exception", "Killed", "User defined signal 1",
    "Segmentation fault", "User defined signal 2", "", "Alarm clock", "Terminated",
    "Stack fault", "Child exited", "Continued", "Stopped (signal)", "Stopped",
    "Stopped (tty input)", "Stopped (tty output)", "Urgent I/O condition",
    "CPU time limit exceeded", "File size limit exceeded", "Virtual timer expired",
    "Profiling timer expired", "Window changed", "I/O possible", "Power failure",
    "Bad system call"]
  names[signal - 1]?.filter (· != "")

-- ==================================================== variables

/-- The value of a variable, if it is set. -/
def value? (s : State) (name : String) : Option String :=
  match name with
  | "?" => some (toString s.status)
  | "#" => some (toString s.arguments.length)
  | "$" => some (toString s.process)
  | "@" | "*" => if s.arguments.isEmpty then none else some (" ".intercalate s.arguments)
  | "-" => some (if s.stopsAtFailure then "e" else "")
  | "0" => some s.name
  | "!" => none
  | _ =>
    match Decimal.readDigits? name.toList with
    | some n => s.arguments[n - 1]?
    | none => s.values.get? name

/-- Gives a variable a value. -/
def set (s : State) (name value : String) : State :=
  { s with values := s.values.insert name value }

/-- Shows a variable to programs. -/
def share (s : State) (name : String) : State :=
  { s with exported := name :: s.exported.filter (· != name) }

/-- Forgets a variable. -/
def unset (s : State) (name : String) : State :=
  { s with values := s.values.erase name, exported := s.exported.filter (· != name) }

/-- The variables that programs see. -/
def sharedValues (s : State) : SortedMap String String :=
  s.values.filter fun name _ => s.exported.contains name

-- ==================================================== parts of a script

/-- What is left of a state when a part of the script has ended that had a state of its own. -/
def afterPart (s part : State) : State :=
  let after := { s with
    disk := part.disk, buffers := part.buffers, input := part.input, status := part.status }
  match part.stop with
  | some (.killed process signal) => { after with stop := some (.killed process signal) }
  | _ => after

/-- Runs something on a state of its own. -/
def inPart (s : State) (run : State → State) : State := s.afterPart (run s)

/-- Runs something, and what it prints. -/
def captured (s : State) (run : State → State) : State × List UInt8 :=
  let index := s.buffers.length
  let part := run { s with buffers := s.buffers ++ [[]], output := .buffer index }
  let printed := part.buffers[index]?.getD []
  (s.afterPart { part with buffers := part.buffers.take index }, printed)

/-- Runs something in a process of its own that has a name and arguments. -/
def inProcess (s : State) (name : String) (arguments : List String) (run : State → State) :
    State :=
  let process := s.process + 1
  let part := run
    { s with
      name, arguments, process, values := s.sharedValues, definitions := ∅, status := 0, line := 1
      loopDepth := 0
      stopsAtFailure := false, demandsValues := false }
  match part.stop with
  | some (.killed victim signal) =>
    if victim == process then
      let after := s.afterPart { part with stop := none, status := 128 + signal }
      ((obituary? signal).map fun text => after.printError (text ++ "\n").toUTF8.toList).getD after
    else s.afterPart part
  | _ => s.afterPart part

-- ==================================================== redirections

/-- What is said of a file that cannot be written. -/
private def writeRefusal (path : Path) (e : DiskError) : String :=
  let reason := match e with
    | .isDirectory => "Is a directory"
    | .nameTooLong => "File name too long"
    | _ => "Directory nonexistent"
  s!"cannot create {path}: {reason}"

/-- The sink for a path, with the file made empty if so asked. -/
private def sinkFor (s : State) (path : Path) (isEmptied : Bool) : Except String (State × Sink) :=
  match path with
  | "/dev/null" => .ok (s, .nowhere)
  | "/dev/stdout" => .ok (s, s.output)
  | "/dev/stderr" => .ok (s, s.errors)
  | _ =>
    let content := match isEmptied, s.disk.read path with
      | false, .ok content => content
      | _, _ => ByteArray.empty
    match s.disk.write path content with
    | .ok disk => .ok ({ s with disk }, .file path)
    | .error e => .error (writeRefusal path e)

/-- The state with a stream that writes to a sink. -/
private def setSink (s : State) (stream : Nat) (sink : Sink) : State :=
  match stream with
  | 1 => { s with output := sink }
  | 2 => { s with errors := sink }
  | _ => s

/-- Redirects a stream; an error is what is said of it. -/
def redirect (s : State) (stream : Nat) (direction : Direction) (target : String) :
    Except String State :=
  match direction with
  | .read =>
    if target == "/dev/null" then .ok { s with input := [] }
    else
      match s.disk.read target with
      | .ok content => .ok { s with input := content.toList }
      | .error .isDirectory => .ok { s with input := [] }
      | .error _ => .error s!"cannot open {target}: No such file"
  | .write => (s.sinkFor target true).map fun (s, sink) => s.setSink stream sink
  | .append => (s.sinkFor target false).map fun (s, sink) => s.setSink stream sink
  | .copy =>
    match target with
    | "-" => .ok (if stream == 0 then { s with input := [] } else s.setSink stream .nowhere)
    | "0" => .ok s
    | "1" => .ok (s.setSink stream s.output)
    | "2" => .ok (s.setSink stream s.errors)
    | _ =>
      .error (if (Decimal.readDigits? target.toList).isSome then s!"{target}: Bad file descriptor"
        else "Syntax error: Bad fd number")

/-- The state with the streams of another one. -/
def withStreams (s other : State) : State :=
  { s with output := other.output, errors := other.errors }

end State

end HostWatch.Shell
