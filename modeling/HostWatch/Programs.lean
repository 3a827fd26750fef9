/-
The programs that commands can use. They are part of the monitor, which
starts no other ones: printing of texts and files, and success and failure
for their own sake.
-/
import HostWatch.Programs.Concatenate
import HostWatch.Programs.Condition
import HostWatch.Programs.Format

namespace HostWatch.Programs

/-- What the system says when a program does not exist. -/
def noSuchProgram : String := DiskError.notFound.message

/-- What the system says when a file is not meant to be run. -/
def permissionDenied : String := "Permission denied (os error 13)"

/-- A result with an output only. -/
def printed (bytes : List UInt8) : ProgramResult := { output := ⟨bytes.toArray⟩ }

-- ==================================================== echo

/-- What the options of `echo` ask for. -/
structure EchoOptions where
  newline : Bool := true
  escapes : Bool := false

/-- The options that an argument stands for, if it does. -/
private def EchoOptions.read? (options : EchoOptions) (argument : String) : Option EchoOptions :=
  match argument.toList with
  | '-' :: letters =>
    if letters.isEmpty || !letters.all fun c => c == 'n' || c == 'e' || c == 'E' then none
    else
      some (letters.foldl (fun o c =>
        if c == 'n' then { o with newline := false } else { o with escapes := c == 'e' }) options)
  | _ => none

/-- Prints its arguments behind the options. -/
def echoWith (options : EchoOptions) : List String → ProgramResult
  | [] => printed (if options.newline then [10] else [])
  | argument :: rest =>
    match options.read? argument with
    | some options => echoWith options rest
    | none =>
      let text := " ".intercalate (argument :: rest)
      let ending : List UInt8 := if options.newline then [10] else []
      if options.escapes then
        let expanded := Escape.expand { octal := .long } text
        printed (expanded.bytes ++ if expanded.stops then [] else ending)
      else printed (text.toUTF8.toList ++ ending)

/-- Prints its arguments. -/
def echo (arguments : List String) : ProgramResult := echoWith {} arguments

-- ==================================================== printf

/-- What a program says that is used wrongly, and where it sends its reader. -/
private def misused (name message : String) (status : Nat) : ProgramResult :=
  { ending := .exited status
    errors := s!"{name}: {message}\nTry '{name} --help' for more information.\n".toUTF8 }

/-- Prints its arguments by a format. -/
def printf (name : String) : List String → ProgramResult
  | [] | ["--"] => misused name "missing operand" 1
  | "--" :: format :: arguments | format :: arguments =>
    Format.print (.program name) format arguments

-- ==================================================== sleep

/-- Whether a text is a time to sleep. -/
private def isInterval (s : String) : Bool :=
  let (n, rest) := Numeral.read s.toList
  rest.length < s.length && !n.isNegative && ["", "s", "m", "h", "d"].contains (String.ofList rest)

/-- Does nothing for some time. -/
def sleep (name : String) (intervals : List String) : ProgramResult :=
  match intervals.find? (!isInterval ·) with
  | some s => misused name s!"invalid time interval {Mention.text s}" 1
  | none => if intervals.isEmpty then misused name "missing operand" 1 else {}

-- ==================================================== test

/-- Decides a condition; errors begin with a name. -/
def test (disk : Disk) (wording : Condition.Wording) (lead : String) (arguments : List String) :
    ProgramResult :=
  match Condition.holds disk wording arguments with
  | .ok holds => { ending := .exited (if holds then 0 else 1) }
  | .error e => { ending := .exited 2, errors := s!"{lead}: {e}\n".toUTF8 }

/-- Decides a condition that ends with a closing bracket. -/
def bracket (disk : Disk) (wording : Condition.Wording) (lead : String)
    (arguments : List String) : ProgramResult :=
  if arguments.getLast? == some "]" then test disk wording lead arguments.dropLast
  else { ending := .exited 2, errors := s!"{lead}: missing {wording.bracket}\n".toUTF8 }

-- ==================================================== all programs

/-- The program of a name, which is called as `called`; `input` is what it may read. -/
def run? (disk : Disk) (input : ByteArray) (name called : String) (arguments : List String) :
    Option ProgramResult :=
  match name with
  | "echo" => some (echo arguments)
  | "printf" => some (printf called arguments)
  | "cat" => some (Concatenate.print disk input called arguments)
  | "sleep" => some (sleep called arguments)
  | "test" => some (test disk .program called arguments)
  | "[" => some (bracket disk .program called arguments)
  | "true" => some {}
  | "false" => some { ending := .exited 1 }
  | _ => none

/-- The name of a program in a directory where programs are. -/
def nameIn? (path : Path) : Option String :=
  (Text.dropPrefix? "/bin/".toList path.toList).or
    (Text.dropPrefix? "/usr/bin/".toList path.toList) |>.map String.ofList

/-- What the system says when a path is no program. -/
def refusal (disk : Disk) (path : Path) : String :=
  match disk.find path with
  | .ok _ => permissionDenied
  | .error e => e.message

/-- Runs a program of a table, which is given by its name and by how it is called. -/
def lookUp (run? : String → String → List String → Option ProgramResult) (disk : Disk) :
    Programs :=
  fun path arguments =>
    let isPath := path.toList.contains '/'
    let name? := if isPath then nameIn? path else some path
    match name?.bind fun name => run? name path arguments with
    | some result => .ok result
    | none =>
      .error (if isPath then refusal disk path
        else if path == "." || path == ".." then permissionDenied else noSuchProgram)

end HostWatch.Programs
