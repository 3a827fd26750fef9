/-
Printing files one after the other, with numbers in front of lines and
with signs for what does not show, if that is asked for.
-/
import HostWatch.Fetch.Read
import HostWatch.Programs.Mention
import HostWatch.Text.Utf8

namespace HostWatch.Concatenate

/-- What is asked for. -/
structure Options where
  /-- Numbers in front of lines. -/
  numbers : Bool := false
  /-- Numbers in front of lines that hold something. -/
  numbersIfFilled : Bool := false
  /-- One empty line in place of several. -/
  squeeze : Bool := false
  showEnds : Bool := false
  showTabs : Bool := false
  showControls : Bool := false

/-- The options after one more letter. -/
private def Options.set? (o : Options) : Char → Option Options
  | 'n' => some { o with numbers := true }
  | 'b' => some { o with numbersIfFilled := true }
  | 's' => some { o with squeeze := true }
  | 'E' => some { o with showEnds := true }
  | 'T' => some { o with showTabs := true }
  | 'v' => some { o with showControls := true }
  | 'e' => some { o with showEnds := true, showControls := true }
  | 't' => some { o with showTabs := true, showControls := true }
  | 'A' => some { o with showEnds := true, showTabs := true, showControls := true }
  | 'u' => some o
  | _ => none

/-- The letters of options that are written out. -/
private def letterOf? : String → Option Char
  | "--show-all" => some 'A'
  | "--number-nonblank" => some 'b'
  | "--show-ends" => some 'E'
  | "--number" => some 'n'
  | "--squeeze-blank" => some 's'
  | "--show-tabs" => some 'T'
  | "--show-nonprinting" => some 'v'
  | _ => none

/-- The letters of an argument that is one or several options, if it is. -/
private def letters? (argument : String) : Option (List Char) :=
  match letterOf? argument, argument.toList with
  | some letter, _ => some [letter]
  | none, '-' :: c :: rest => if c == '-' then none else some (c :: rest)
  | none, _ => none

/-- The options and the paths among some arguments; an error is what is no option. -/
private def readArguments (o : Options) : List String → Except String (Options × List Path)
  | [] => .ok (o, [])
  | "--" :: rest => .ok (o, rest)
  | argument :: rest =>
    match letters? argument with
    | none =>
      if argument.startsWith "--" then .error s!"unrecognized option '{argument}'"
      else (readArguments o rest).map fun (o, paths) => (o, argument :: paths)
    | some letters =>
      match letters.foldl (fun (found : Except Char Options) c =>
        found.bind fun o => (o.set? c).elim (.error c) .ok) (.ok o) with
      | .ok o => readArguments o rest
      | .error c => .error s!"invalid option -- '{c}'"

-- ==================================================== lines

/-- A byte with signs for what does not show. -/
private def showByte (o : Options) (b : UInt8) : List UInt8 :=
  let n := b.toNat
  let sign (n : Nat) : List UInt8 :=
    if n = 127 then [94, 63] else if n < 32 then [94, (n + 64).toUInt8] else [n.toUInt8]
  if n = 9 then if o.showTabs then [94, 73] else [9]
  else if !o.showControls then [b]
  else if 128 ≤ n then [77, 45] ++ sign (n - 128)
  else sign n

/-- A line as it is printed, from the number in front of it on. -/
private def showLine (o : Options) (number : Nat) (line : List UInt8) : List UInt8 :=
  let isNumbered := if o.numbersIfFilled then line != [10] else o.numbers
  let digits := toString number
  let lead := String.ofList (List.replicate (6 - digits.length) ' ') ++ digits ++ "\t"
  let front := if isNumbered then lead.toUTF8.toList else []
  let inside := line.filter (· != 10)
  let ending : List UInt8 :=
    if line.getLast? == some 10 then if o.showEnds then [36, 10] else [10] else []
  front ++ inside.flatMap (showByte o) ++ ending

/-- Lines as they are printed; `afterEmpty` tells whether the line before was empty. -/
private def showLines (o : Options) (number : Nat) (afterEmpty : Bool) :
    List (List UInt8) → List UInt8
  | [] => []
  | line :: rest =>
    let isEmpty := line == [10]
    if o.squeeze && isEmpty && afterEmpty then showLines o number true rest
    else
      let counts := !(o.numbersIfFilled && isEmpty)
      showLine o number line ++ showLines o (if counts then number + 1 else number) isEmpty rest

/-- Whether the files are printed as they are. -/
private def Options.isPlain (o : Options) : Bool :=
  !(o.numbers || o.numbersIfFilled || o.squeeze || o.showEnds || o.showTabs || o.showControls)

/-- Content as it is printed. -/
private def render (o : Options) (content : ByteArray) : ByteArray :=
  if o.isPlain then content
  else ⟨(showLines o 1 false (Text.byteLines content.toList)).toArray⟩

-- ==================================================== files

/-- What is said of a file that cannot be printed. -/
private def reason : DiskError → String
  | .notFound => "No such file or directory"
  | .notDirectory => "Not a directory"
  | .isDirectory => "Is a directory"
  | .nameTooLong => "File name too long"
  | e => e.message

/-- Prints files; a hyphen stands for the input. The program goes by a name. -/
def print (disk : Disk) (input : ByteArray) (name : String) (arguments : List String) :
    ProgramResult :=
  match readArguments {} arguments with
  | .error message =>
    { ending := .exited 1
      errors := s!"{name}: {message}\nTry '{name} --help' for more information.\n".toUTF8 }
  | .ok (o, paths) =>
    let result := (if paths.isEmpty then ["-"] else paths).foldl (fun (r : ProgramResult) path =>
      match if path == "-" then .ok input else disk.read path with
      | .ok content => { r with output := r.output ++ content }
      | .error e =>
        { r with
          ending := .exited 1
          errors := r.errors ++ s!"{name}: {Mention.name path}: {reason e}\n".toUTF8 }) {}
    { result with output := render o result.output }

end HostWatch.Concatenate
