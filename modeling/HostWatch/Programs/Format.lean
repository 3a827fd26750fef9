/-
Printing by a format: texts, characters and whole numbers in fields of
some width, and escapes. The format is gone through again as long as there
are arguments left.
-/
import HostWatch.Fetch.Read
import HostWatch.Programs.Mention
import HostWatch.Programs.Numeral
import HostWatch.Text.Blank

namespace HostWatch.Format

/-- How a program prints by a format: the escapes that it knows, and what it says. -/
structure Manner where
  escapes : Escape.Escapes
  /-- The letters in front of a conversion that only say how wide numbers are. -/
  sizes : List Char
  /-- What stands in front of all that it says. -/
  lead : String
  /-- What it says of an argument that is no number. -/
  notNumeric : String → String
  /-- What it says of an argument that only begins with a number. -/
  incomplete : String → String
  outOfRange : String → String
  /-- What it says of a directive that it does not know. -/
  invalid : String → String
  /-- How it ends then. -/
  invalidStatus : Nat
  /-- What it says of a format that ends within a directive. -/
  cutShort : String → String

/-- How a program with a name does it. -/
def Manner.program (name : String) : Manner where
  escapes := { octal := .short }
  sizes := ['h', 'l', 'L', 'j', 'z', 't']
  lead := s!"{name}: "
  notNumeric a := s!"{Mention.text a}: expected a numeric value"
  incomplete a := s!"{Mention.text a}: value not completely converted"
  outOfRange a := s!"{Mention.text a}: Numerical result out of range"
  invalid d := s!"{d}: invalid conversion specification"
  invalidStatus := 1
  cutShort d := s!"{d}: invalid conversion specification"

/-- How the shell does it, whose messages begin with its name and a line. -/
def Manner.shell (name : String) (line : Nat) : Manner where
  escapes := { octal := .short, hexadecimal := false }
  sizes := []
  lead := s!"{name}: {line}: printf: "
  notNumeric a := s!"{a}: expected numeric value"
  incomplete a := s!"{a}: not completely converted"
  outOfRange a := s!"{a}: Numerical result out of range"
  invalid d := s!"{d}: invalid directive"
  invalidStatus := 2
  cutShort _ := "missing format character"

/-- What has been printed, and what is left to print. -/
structure Printing where
  manner : Manner
  output : List UInt8 := []
  errors : String := ""
  status : Nat := 0
  arguments : List String
  /-- Whether an argument has been asked for. -/
  asked : Bool := false
  /-- Whether nothing more is printed. -/
  stopped : Bool := false

namespace Printing

/-- Prints some bytes. -/
private def put (p : Printing) (bytes : List UInt8) : Printing :=
  { p with output := p.output ++ bytes }

/-- Says what is wrong. -/
private def complain (p : Printing) (message : String) : Printing :=
  { p with errors := p.errors ++ s!"{p.manner.lead}{message}\n", status := 1 }

/-- Says what is wrong with the format, and prints nothing more. -/
private def refuse (p : Printing) (message : String) : Printing :=
  { p.complain message with status := p.manner.invalidStatus, stopped := true }

/-- The next argument, and what is left behind it. -/
private def next (p : Printing) : Option String × Printing :=
  (p.arguments.head?, { p with arguments := p.arguments.drop 1, asked := true })

end Printing

-- ==================================================== numbers

/-- The number at the start of a text, and what follows: octal, decimal or hexadecimal. -/
private def readMagnitude (s : List Char) : Nat × List Char :=
  match s with
  | '0' :: x :: d :: rest =>
    if (x == 'x' || x == 'X') && Escape.isHex d then
      let digits := (d :: rest).takeWhile Escape.isHex
      (Escape.number 16 digits, (d :: rest).drop digits.length)
    else
      let digits := s.takeWhile Escape.isOctal
      (Escape.number 8 digits, s.drop digits.length)
  | '0' :: _ =>
    let digits := s.takeWhile Escape.isOctal
    (Escape.number 8 digits, s.drop digits.length)
  | _ =>
    let digits := s.takeWhile Char.isDigit
    (Escape.number 10 digits, s.drop digits.length)

/-- The number that an argument denotes, and what is wrong with it. -/
private def readNumber (manner : Manner) (s : String) : Int × Option String :=
  match s.toList with
  | '\'' :: c :: _ | '"' :: c :: _ => (c.toNat, none)
  | chars =>
    let chars := Text.trimStart chars
    let (sign, body) : Int × List Char := match chars with
      | '-' :: rest => (-1, rest)
      | '+' :: rest => (1, rest)
      | _ => (1, chars)
    let (n, rest) := readMagnitude body
    let complaint : Option String :=
      if rest.isEmpty then none
      else if rest.length = body.length then some (manner.notNumeric s)
      else some (manner.incomplete s)
    let inRange := -9223372036854775808 ≤ sign * n ∧ sign * n ≤ 18446744073709551615
    if inRange then (sign * n, complaint)
    else (sign * n, some (manner.outOfRange s))

/-- The decimal number that an argument denotes, and what is wrong with it. -/
private def readNumeral (manner : Manner) (s : String) : Numeral × Option String :=
  match s.toList with
  | '\'' :: c :: _ | '"' :: c :: _ => ({ numerator := c.toNat }, none)
  | chars =>
    let (n, rest) := Numeral.read (Text.trimStart chars)
    let complaint : Option String :=
      if rest.isEmpty then none
      else if rest.length = chars.length then some (manner.notNumeric s)
      else some (manner.incomplete s)
    (n, complaint)

-- ==================================================== directives

/-- A directive of a format. -/
private structure Directive where
  flags : List Char := []
  width : Nat := 0
  precision : Option Nat := none
  conversion : Char

/-- A text in the field of a directive. -/
private def Directive.pad (d : Directive) (bytes : List UInt8) : List UInt8 :=
  let blanks := List.replicate (d.width - bytes.length) (32 : UInt8)
  if d.flags.contains '-' then bytes ++ blanks else blanks ++ bytes

/-- A number in the field of a directive: its sign or mark, and its digits. -/
private def Directive.padNumber (d : Directive) (mark digits : List Char) : List UInt8 :=
  let zeros (n : Nat) : List Char := List.replicate n '0'
  let digits := zeros (d.precision.getD 1 - digits.length) ++ digits
  let filled :=
    if d.flags.contains '0' && !d.flags.contains '-' && d.precision.isNone then
      zeros (d.width - mark.length - digits.length) ++ digits
    else digits
  d.pad (Escape.bytesOf (mark ++ filled))

/-- The field of a whole number. -/
private def Directive.number (d : Directive) (n : Int) : List UInt8 :=
  let unsigned := (n % 18446744073709551616).toNat
  let alternative := d.flags.contains '#'
  match d.conversion with
  | 'u' => d.padNumber [] (toString unsigned).toList
  | 'o' => d.padNumber (if alternative then ['0'] else []) (Nat.toDigits 8 unsigned)
  | 'x' => d.padNumber (if alternative then ['0', 'x'] else []) (Nat.toDigits 16 unsigned)
  | 'X' =>
    d.padNumber (if alternative then ['0', 'X'] else [])
      ((Nat.toDigits 16 unsigned).map Char.toUpper)
  | _ =>
    let sign : List Char :=
      if n < 0 then ['-'] else if d.flags.contains '+' then ['+']
      else if d.flags.contains ' ' then [' '] else []
    d.padNumber sign (toString n.natAbs).toList

/-- The field of a decimal number. -/
private def Directive.numeral (d : Directive) (n : Numeral) : List UInt8 :=
  let sign : List Char :=
    if n.isNegative then ['-'] else if d.flags.contains '+' then ['+']
    else if d.flags.contains ' ' then [' '] else []
  let precision := d.precision.getD 6
  let text : List Char :=
    match d.conversion.toLower with
    | 'f' => n.fixed precision
    | 'e' => n.scientific precision
    | _ => n.general precision (d.flags.contains '#')
  let text := if d.conversion.isUpper then text.map Char.toUpper else text
  { d with precision := none }.padNumber sign text

/-- The first bytes of a text, as many as a directive wants. -/
private def Directive.cut (d : Directive) (bytes : List UInt8) : List UInt8 :=
  match d.precision with
  | some n => bytes.take n
  | none => bytes

/-- Prints the field of a directive. -/
private def Directive.print (d : Directive) (written : List Char) (p : Printing) : Printing :=
  let (argument, after) := p.next
  let text := argument.getD ""
  match d.conversion with
  | 's' => after.put (d.pad (d.cut (Escape.bytesOf text.toList)))
  | 'c' => after.put (d.pad ((Escape.bytesOf text.toList).take 1))
  | 'q' => after.put (d.pad (Escape.bytesOf (Mention.name text).toList))
  | 'b' =>
    let e := Escape.expand { octal := .long } text
    { after.put (d.pad (d.cut e.bytes)) with stopped := e.stops }
  | c =>
    if "diuoxX".toList.contains c then
      let (n, complaint) := readNumber p.manner text
      let printed := after.put (d.number n)
      (complaint.map printed.complain).getD printed
    else if "fFeEgG".toList.contains c then
      let (n, complaint) := readNumeral p.manner text
      let printed := after.put (d.numeral n)
      (complaint.map printed.complain).getD printed
    else p.refuse (p.manner.invalid (String.ofList written))

/-- A number in a directive: digits, or an argument in place of a star. -/
private def readWidth (p : Printing) (s : List Char) : Option Int × Printing × List Char :=
  match s with
  | '*' :: rest =>
    let (argument, after) := p.next
    (some (readNumber p.manner (argument.getD "")).1, after, rest)
  | _ =>
    let digits := s.takeWhile Char.isDigit
    (if digits.isEmpty then none else some (Escape.number 10 digits), p, s.drop digits.length)

/-- Prints a directive, from behind its percent sign; what follows it. -/
private def printDirective (p : Printing) (s : List Char) : Printing × List Char :=
  let flags := s.takeWhile fun c => "-+ #0'I".toList.contains c
  let (width, p, afterWidth) := readWidth p (s.drop flags.length)
  let (precision, p, afterPrecision) : Option Int × Printing × List Char :=
    match afterWidth with
    | '.' :: rest =>
      let (n, p, after) := readWidth p rest
      (some (n.getD 0), p, after)
    | _ => (none, p, afterWidth)
  let flags := if width.any (· < 0) then '-' :: flags else flags
  match afterPrecision.dropWhile p.manner.sizes.contains with
  | [] => (p.refuse (p.manner.cutShort s!"%{String.ofList s}"), [])
  | c :: rest =>
    let written := '%' :: s.take (s.length - rest.length)
    let d : Directive :=
      { flags, width := (width.getD 0).natAbs, precision := precision.map Int.toNat,
        conversion := c }
    (d.print written p, rest)

-- ==================================================== formats

/-- Goes through a format, of which at most `fuel` characters are left. -/
private def goThrough (fuel : Nat) (p : Printing) (s : List Char) : Printing :=
  match fuel, s with
  | 0, _ | _, [] => p
  | fuel + 1, c :: rest =>
    if p.stopped then p
    else
      match c, rest with
      | '%', '%' :: rest => goThrough fuel (p.put [37]) rest
      | '%', rest =>
        let (p, after) := printDirective p rest
        goThrough fuel p after
      | '\\', 'c' :: _ => { p with stopped := true }
      | '\\', '"' :: rest => goThrough fuel (p.put [34]) rest
      | '\\', 'x' :: rest =>
        if p.manner.escapes.hexadecimal && !(rest.head?.any Escape.isHex) then
          { p.complain "missing hexadecimal number in escape" with stopped := true }
        else
          let (bytes, after) := Escape.one p.manner.escapes ('x' :: rest)
          goThrough fuel (p.put bytes) after
      | '\\', rest =>
        let (bytes, after) := Escape.one p.manner.escapes rest
        goThrough fuel (p.put bytes) after
      | c, rest => goThrough fuel (p.put (Escape.bytesOf [c])) rest

/-- Goes through a format until no argument is left; `fuel` bounds how often. -/
private def goOn (format : List Char) (fuel : Nat) (p : Printing) : Printing :=
  let p := goThrough format.length { p with asked := false } format
  match fuel with
  | 0 => p
  | fuel + 1 =>
    if p.asked && !p.arguments.isEmpty && !p.stopped then goOn format fuel p else p

/-- Prints arguments by a format. -/
def print (manner : Manner) (format : String) (arguments : List String) : ProgramResult :=
  let p := goOn format.toList arguments.length { manner, arguments }
  { ending := .exited p.status
    output := ⟨p.output.toArray⟩
    errors := p.errors.toUTF8 }

end HostWatch.Format
