/-
Reading the two kinds of sources: files of a disk, and the standard output
of programs. What a program does is up to the caller.
-/
import HostWatch.Disk
import HostWatch.Fetch
import HostWatch.Fetch.Words

namespace HostWatch

/-- The names of the signals that end programs, from number 1 on. -/
def signalNames : List String :=
  ["HUP", "INT", "QUIT", "ILL", "TRAP", "ABRT", "BUS", "FPE", "KILL", "USR1", "SEGV", "USR2",
    "PIPE", "ALRM", "TERM", "STKFLT", "CHLD", "CONT", "STOP", "TSTP", "TTIN", "TTOU", "URG",
    "XCPU", "XFSZ", "VTALRM", "PROF", "WINCH", "IO", "PWR", "SYS"]

/-- How a program ends. -/
inductive ProgramEnd where
  | exited (status : Nat)
  /-- A signal has ended it, given by its number. -/
  | killed (signal : Nat)
deriving DecidableEq, Repr

namespace ProgramEnd

/-- Whether a program ends well. -/
def isSuccess (e : ProgramEnd) : Bool := e == exited 0

/-- What is said of the end of a program. -/
def message : ProgramEnd → String
  | exited status => s!"exit status: {status}"
  | killed signal =>
    match signalNames[signal - 1]? with
    | some name => s!"signal: {signal} (SIG{name})"
    | none => s!"signal: {signal}"

end ProgramEnd

/-- What a program leaves behind. -/
structure ProgramResult where
  ending : ProgramEnd := .exited 0
  output : ByteArray := ByteArray.empty
  errors : ByteArray := ByteArray.empty

/-- Runs a program with arguments; an error is what the system says if it cannot be started. -/
abbrev Programs := String → List String → Except String ProgramResult

namespace SourceKind

/-- The content of a file. -/
def readFile (disk : Disk) (path : Path) : Except FetchError ByteArray :=
  match disk.read path with
  | .ok data => .ok data
  | .error .notFound => .error (.connection s!"{path} not found")
  | .error e => .error (.other e.message)

/-- What the system says of a command with a character that ends texts. -/
def nulInCommand : String := "nul byte found in provided data"

/-- The standard output of a program, which has to end well. -/
def runProgram (programs : Programs) (name : String) (arguments : List String) :
    Except FetchError ByteArray :=
  let started :=
    if (name :: arguments).any (·.contains '\x00') then .error nulInCommand
    else programs name arguments
  match started with
  | .error reason => .error (.connection reason)
  | .ok result =>
    if result.ending.isSuccess then .ok result.output
    else
      let errors := String.ofList (Text.trim (Text.ofBytes result.errors).toList)
      .error (.other s!"{name} exited with {result.ending.message}: {errors}")

/-- The standard output of a command. -/
def runCommand (programs : Programs) (command : String) : Except FetchError ByteArray :=
  match Command.words? command with
  | none => .error (.other "invalid command: missing closing quote")
  | some [] => .error (.other "empty command")
  | some (name :: arguments) => runProgram programs name arguments

/-- Reads a kind of source. -/
def read (disk : Disk) (programs : Programs) : SourceReader
  | file path => readFile disk path
  | program command => runCommand programs command

end SourceKind

end HostWatch
