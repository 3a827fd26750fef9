/-
The conditions that `test` decides: about texts, numbers and files, with
negation, brackets and links between them.
-/
import HostWatch.Decimal.Integer
import HostWatch.Disk
import HostWatch.Programs.Mention
import HostWatch.Text.Blank

namespace HostWatch.Condition

/-- What is said of arguments that make no condition. -/
structure Wording where
  notNumeric : String → String
  /-- What is said of an argument behind a complete condition, which the one before is part of. -/
  surplus : String → String → String
  /-- How a closing bracket is mentioned. -/
  bracket : String

/-- What a program says. -/
def Wording.program : Wording where
  notNumeric a := s!"invalid integer {Mention.text a}"
  surplus before after :=
    if before.startsWith "-" then s!"{Mention.text before}: unary operator expected"
    else s!"missing argument after {Mention.text after}"
  bracket := Mention.text "]"

/-- What the shell says. -/
def Wording.shell : Wording where
  notNumeric a := s!"Illegal number: {a}"
  surplus before _ := s!"{before}: unexpected operator"
  bracket := "]"

/-- What comes of reading a condition: whether it holds, and the arguments behind it. -/
abbrev ConditionRead := Except String (Bool × List String)

/-- What an argument denotes as a number. -/
private def number (wording : Wording) (argument : String) : Except String Int :=
  let chars := Text.trim argument.toList
  match Decimal.readInteger? chars with
  | some n => .ok n
  | none => .error (wording.notNumeric argument)

/-- The conditions on one argument. -/
private def unary? (disk : Disk) (sign : String) : Option (String → Bool) :=
  let stands (p : DiskNode → Bool) (path : String) : Bool :=
    match disk.find path with
    | .ok node => p node
    | .error _ => false
  let isDirectory : DiskNode → Bool
    | .directory => true
    | .file _ => false
  match sign with
  | "-n" => some (· != "")
  | "-z" => some (· == "")
  | "-e" | "-r" | "-w" => some (stands fun _ => true)
  | "-f" => some (stands (!isDirectory ·))
  | "-d" | "-x" => some (stands isDirectory)
  | "-s" =>
    some (stands fun
      | .directory => true
      | .file content => content.size != 0)
  | "-b" | "-c" | "-g" | "-h" | "-k" | "-L" | "-p" | "-S" | "-t" | "-u" => some fun _ => false
  | _ => none

/-- The conditions on two arguments. -/
private def binary? (wording : Wording) (sign : String) :
    Option (String → String → Except String Bool) :=
  let numbers (p : Int → Int → Bool) : Option (String → String → Except String Bool) :=
    some fun a b => do .ok (p (← number wording a) (← number wording b))
  match sign with
  | "=" => some fun a b => .ok (a == b)
  | "!=" => some fun a b => .ok (a != b)
  | "<" => some fun a b => .ok (a < b)
  | ">" => some fun a b => .ok (b < a)
  | "-eq" => numbers fun a b => a == b
  | "-ne" => numbers fun a b => a != b
  | "-lt" => numbers fun a b => a < b
  | "-le" => numbers fun a b => a ≤ b
  | "-gt" => numbers fun a b => b < a
  | "-ge" => numbers fun a b => b ≤ a
  | _ => none

/-- Reads a condition without links; `inner` reads one between brackets. -/
private def readSingle (disk : Disk) (wording : Wording) (inner : List String → ConditionRead)
    (fuel : Nat) (arguments : List String) : ConditionRead :=
  match fuel, arguments with
  | _, [] => .error "argument expected"
  | 0, _ => .error "argument expected"
  | fuel + 1, first :: rest =>
    let asText : ConditionRead := .ok (first != "", rest)
    let asUnary : ConditionRead :=
      match unary? disk first, rest with
      | some p, argument :: rest => .ok (p argument, rest)
      | _, _ => asText
    let asBinary? : Option ConditionRead :=
      match rest with
      | sign :: right :: rest =>
        (binary? wording sign).map fun p => (p first right).map (·, rest)
      | _ => none
    match asBinary? with
    | some result => result
    | none =>
      if first == "!" && !rest.isEmpty then
        (readSingle disk wording inner fuel rest).map fun (holds, rest) => (!holds, rest)
      else if first == "(" && !rest.isEmpty then
        match inner rest with
        | .ok (holds, ")" :: rest) => .ok (holds, rest)
        | .ok _ => .error "closing paren expected"
        | .error e => .error e
      else asUnary

/-- Reads conditions that all have to hold. -/
private def readAll (single : List String → ConditionRead) (fuel : Nat) (arguments : List String) :
    ConditionRead := do
  let (holds, rest) ← single arguments
  match fuel, rest with
  | fuel + 1, "-a" :: rest =>
    let (more, rest) ← readAll single fuel rest
    .ok (holds && more, rest)
  | _, _ => .ok (holds, rest)

/-- Reads conditions one of which has to hold. -/
private def readAny (single : List String → ConditionRead) (fuel : Nat) (arguments : List String) :
    ConditionRead := do
  let (holds, rest) ← readAll single arguments.length arguments
  match fuel, rest with
  | fuel + 1, "-o" :: rest =>
    let (more, rest) ← readAny single fuel rest
    .ok (holds || more, rest)
  | _, _ => .ok (holds, rest)

/-- Reads a condition; `fuel` bounds how deep brackets are nested. -/
private def readNested (disk : Disk) (wording : Wording) (fuel : Nat) (arguments : List String) :
    ConditionRead :=
  match fuel with
  | 0 => .error "argument expected"
  | fuel + 1 =>
    let single := readSingle disk wording (readNested disk wording fuel) arguments.length
    readAny single arguments.length arguments

/-- Whether the condition holds that some arguments make; an error is what is said of them. -/
def holds (disk : Disk) (wording : Wording) (arguments : List String) : Except String Bool :=
  if arguments.isEmpty then .ok false
  else
    match readNested disk wording (arguments.length + 1) arguments with
    | .error e => .error e
    | .ok (holds, []) => .ok holds
    | .ok (_, rest) =>
      let before := arguments[arguments.length - rest.length - 1]?.getD ""
      .error (wording.surplus before (rest.headD ""))

end HostWatch.Condition
