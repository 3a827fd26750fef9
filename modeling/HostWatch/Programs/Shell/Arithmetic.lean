/-
Expressions with whole numbers of 64 bits: operators of several ranks,
brackets and variables.
-/
import HostWatch.Decimal.Bits
import HostWatch.Decimal.Integer
import HostWatch.Programs.Shell.Syntax
import HostWatch.Text.Split

namespace HostWatch.Shell.Arithmetic

/-- A number in 64 bits. -/
private def wrap (n : Int) : Int := n.bmod 18446744073709551616

/-- The bits of a number. -/
private def bits (n : Int) : Nat := (n % 18446744073709551616).toNat

/-- The number that stands for whether something holds. -/
private def truth (b : Bool) : Int := if b then 1 else 0

/-- What comes of reading an expression: its value, and what follows it. -/
abbrev NumberRead := Except String (Int × List Char)

/-- The operators with two sides by rank, the ones that bind least first; longer signs first. -/
def ranks : List (List String) :=
  [["||"], ["&&"], ["|"], ["^"], ["&"], ["==", "!="], ["<=", ">=", "<", ">"], ["<<", ">>"],
    ["+", "-"], ["*", "/", "%"]]

/-- Signs that are not what they begin with. -/
private def longerSigns : List String := ["||", "&&", "<<", ">>", "<=", ">=", "==", "!="]

/-- The value of an operator. -/
private def apply (sign : String) (a b : Int) : Except String Int :=
  match sign with
  | "||" => .ok (truth (a != 0 || b != 0))
  | "&&" => .ok (truth (a != 0 && b != 0))
  | "|" => .ok (wrap (bits a ||| bits b : Nat))
  | "^" => .ok (wrap (bits a ^^^ bits b : Nat))
  | "&" => .ok (wrap (bits a &&& bits b : Nat))
  | "==" => .ok (truth (a == b))
  | "!=" => .ok (truth (a != b))
  | "<=" => .ok (truth (a ≤ b))
  | ">=" => .ok (truth (b ≤ a))
  | "<" => .ok (truth (a < b))
  | ">" => .ok (truth (b < a))
  | "<<" => .ok (wrap (bits a <<< (bits b % 64) : Nat))
  | ">>" => .ok (a >>> (bits b % 64))
  | "+" => .ok (wrap (a + b))
  | "-" => .ok (wrap (a - b))
  | "*" => .ok (wrap (a * b))
  | "/" => if b = 0 then .error "division by zero" else .ok (wrap (a.tdiv b))
  | _ => if b = 0 then .error "division by zero" else .ok (a.tmod b)

/-- A text without the blanks at its start. -/
private def skip (s : List Char) : List Char :=
  s.dropWhile fun c => c == ' ' || c == '\t' || c == '\n'

/-- The operator of a rank at the start of a text, and what follows. -/
private def operator? (signs : List String) (s : List Char) : Option (String × List Char) :=
  signs.findSome? fun sign =>
    (Text.dropPrefix? sign.toList s).bind fun after =>
      let isLonger := longerSigns.any fun longer =>
        sign.length < longer.length && (Text.dropPrefix? longer.toList s).isSome
      if isLonger then none else some (sign, after)

/-- Applies the operators of a rank, from left to right. -/
private def goOn (side : List Char → NumberRead) (signs : List String) (fuel : Nat) (left : Int)
    (s : List Char) : NumberRead :=
  match fuel, operator? signs (skip s) with
  | fuel + 1, some (sign, after) => do
    let (right, rest) ← side after
    goOn side signs fuel (← apply sign left right) rest
  | _, _ => .ok (left, s)

/-- Reads an expression of the given ranks. -/
private def readRanks (operand : List Char → NumberRead) :
    List (List String) → List Char → NumberRead
  | [], s => operand s
  | signs :: more, s => do
    let (left, rest) ← readRanks operand more s
    goOn (readRanks operand more) signs rest.length left rest

/-- The number at the start of a text that begins with a digit, and what follows. -/
private def readNumber (s : List Char) : Int × List Char :=
  let digitsOf (base : Nat) (p : Char → Bool) (s : List Char) : Int × List Char :=
    let digits := s.takeWhile p
    (wrap (digits.foldl (fun (n : Nat) c => n * base + Decimal.hexValue c) 0 : Nat),
      s.drop digits.length)
  let isHex (c : Char) : Bool := c.isDigit || ('a' ≤ c && c ≤ 'f') || ('A' ≤ c && c ≤ 'F')
  match s with
  | '0' :: 'x' :: rest | '0' :: 'X' :: rest => digitsOf 16 isHex rest
  | '0' :: _ => digitsOf 8 (fun c => '0' ≤ c && c ≤ '7') s
  | _ => digitsOf 10 Char.isDigit s

/-- The value of a variable, which is a number or nothing. -/
private def valueOf (text : String) : Except String Int :=
  let (sign, digits) : Int × List Char := match text.toList with
    | '-' :: rest => (-1, rest)
    | '+' :: rest => (1, rest)
    | chars => (1, chars)
  let (n, rest) := readNumber digits
  if rest.isEmpty then .ok (sign * n) else .error s!"Illegal number: {text}"

/-- Reads an operand; `fuel` bounds how deep brackets and signs are nested. -/
private def readOperand (lookUp : String → Option String) (fuel : Nat) (s : List Char) :
    NumberRead :=
  match fuel with
  | 0 => .error "expecting primary"
  | fuel + 1 =>
    match skip s with
    | '(' :: rest => do
      let (n, after) ← readRanks (readOperand lookUp fuel) ranks rest
      match skip after with
      | ')' :: after => .ok (n, after)
      | _ => .error "expecting ')'"
    | '-' :: rest => (readOperand lookUp fuel rest).map fun (n, after) => (wrap (-n), after)
    | '+' :: rest => readOperand lookUp fuel rest
    | '!' :: rest => (readOperand lookUp fuel rest).map fun (n, after) => (truth (n == 0), after)
    | '~' :: rest => (readOperand lookUp fuel rest).map fun (n, after) => (-n - 1, after)
    | c :: rest =>
      let s := c :: rest
      if c.isDigit then .ok (readNumber s)
      else
        let name := s.takeWhile isNameChar
        if name.isEmpty then .error "expecting primary"
        else
          (valueOf ((lookUp (String.ofList name)).getD "")).map (·, s.drop name.length)
    | [] => .error "expecting primary"

/-- The value of an expression; an error is what is said of it. -/
def value (lookUp : String → Option String) (expression : String) : Except String Int :=
  let chars := expression.toList
  let refused (reason : String) : String :=
    if reason.startsWith "Illegal" then reason
    else s!"arithmetic expression: {reason}: \"{expression}\""
  if (skip chars).isEmpty then .ok 0
  else
    match readRanks (readOperand lookUp (chars.length + 1)) ranks chars with
    | .error reason => .error (refused reason)
    | .ok (n, rest) => if (skip rest).isEmpty then .ok n else .error (refused "expecting EOF")

end HostWatch.Shell.Arithmetic
