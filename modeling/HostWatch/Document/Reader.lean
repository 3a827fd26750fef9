/-
Reading documents: a machine that takes one token at a time and keeps a
stack of the lists and records that are still open.

What is nested too deep stands for nothing, and so do numbers that no
double holds. In files a number or a word keeps its spelling.
-/
import HostWatch.Document
import HostWatch.Document.Token

namespace HostWatch.Document

-- ============================================================ numbers

/-- `10 ^ n` as a double. -/
private def powerOfTen (n : Nat) : Float := Float.ofScientific 1 false n

/-- A double divided by `10 ^ n`, in steps of at most 308 powers. -/
private def divideTen (x : Float) (n : Nat) : Float :=
  if n ≤ 308 then x / powerOfTen n
  else if x == 0.0 then x
  else divideTen (x / powerOfTen 308) (n - 308)
termination_by n

/-- A double multiplied by `10 ^ n`, when that is finite. -/
private def multiplyTen? (x : Float) (n : Nat) : Option Float :=
  if n ≤ 308 then
    let y := x * powerOfTen n
    if y.isFinite then some y else none
  else if x == 0.0 then some x
  else none

/-- The digits that fit into 64 bits, as a number, and how many there are of them. -/
def leadingDigits (acc count : Nat) : List Char → Nat × Nat
  | [] => (acc, count)
  | c :: rest =>
    let next := acc * 10 + (Decimal.digit? c).getD 0
    if Decimal.maxUnsigned64 < next then (acc, count) else leadingDigits next (count + 1) rest

/--
The double of a significand and an exponent. The significand, as many digits of it as 64 bits hold,
is rounded first and then scaled by one power of ten.
-/
private def scaled? (whole fraction : List Char) (exponent : Int) : Option Float :=
  let (significand, used) := leadingDigits 0 0 (whole ++ fraction)
  let exponent := exponent + whole.length - used
  let x := Float.ofNat significand
  if 0 ≤ exponent then multiplyTen? x exponent.toNat else some (divideTen x (-exponent).toNat)

/-- Whether the digits before the point are written without leading zeros. -/
def canonicalWhole : List Char → Bool
  | [] => false
  | ['0'] => true
  | c :: _ => c != '0'

/-- A number as it is written. -/
structure Written where
  negative : Bool
  whole : List Char
  fraction : List Char := []
  exponent : Int := 0
  /-- Whether there is neither a fraction nor an exponent. -/
  isWhole : Bool := false

/-- The parts of a number, if it is well formed. -/
def parts? (s : List Char) : Option Written :=
  let (negative, body) := match s with
    | '-' :: rest => (true, rest)
    | _ => (false, s)
  let (whole, rest) := Decimal.spanDigits body
  if !canonicalWhole whole then none
  else
    match rest with
    | [] => some { negative, whole, isWhole := true }
    | '.' :: more =>
      let (fraction, tail) := Decimal.spanDigits more
      if fraction.isEmpty then none
      else (Decimal.readExponent? tail).map ({ negative, whole, fraction, exponent := · })
    | _ => (Decimal.readExponent? rest).map ({ negative, whole, exponent := · })

/-- The number that parts denote: whole if it is written so and 64 bits hold it. -/
def Written.document (w : Written) : Document :=
  let double : Document :=
    match scaled? w.whole w.fraction w.exponent with
    | some x => .float (if w.negative then -x else x)
    | none => .broken
  if w.isWhole then
    match Decimal.readDigits? w.whole with
    | some n =>
      let signed : Int := if w.negative then -(n : Int) else n
      if w.negative && n == 0 then .float (-0.0)
      else if Decimal.minSigned64 ≤ signed ∧ signed ≤ (Decimal.maxUnsigned64 : Int) then
        .int signed
      else double
    | none => double
  else double

/-- What a number says. -/
def ofNumber? (dialect : Dialect) (s : List Char) : Option Document :=
  (parts? s).map fun w =>
    match dialect with
    | .data => w.document
    | .file => .plain (String.ofList s)

/-- What a bare word says. -/
def ofWord? (dialect : Dialect) (s : List Char) : Option Document :=
  let word := String.ofList s
  let meaning : Option Document :=
    match word with
    | "null" => some .null
    | "true" => some (.bool true)
    | "false" => some (.bool false)
    | _ => none
  meaning.map fun d => if dialect = .file then .plain word else d

-- ============================================================ nesting

/-- The fields of a record that is still open, the last one first; a name may stand for nothing. -/
abbrev OpenFields := List (Option String × Document)

/-- A list or record that is still open. -/
inductive Frame where
  /-- A list; its items run backwards. -/
  | list (items : List Document)
  /-- A record, within the field `name`. -/
  | record (fields : OpenFields) (name : Option String)

/-- What may come next. -/
inductive Expect where
  /-- A value. -/
  | value
  /-- A value, or the end of a list that has just begun. -/
  | firstItem
  /-- The name of a field, or the end of a record that has just begun. -/
  | firstName
  /-- The name of a field. -/
  | name (fields : OpenFields)
  /-- The colon after a name. -/
  | colon (fields : OpenFields) (name : Option String)
  /-- A comma or the end of what is open. -/
  | separator
  /-- Nothing: the document is complete. -/
  | done (d : Document)

/-- The state of the machine: what is open, innermost first, and what may come next. -/
structure Progress where
  stack : List Frame
  expect : Expect

/-- Something has been read. -/
def put (frames : List Frame) (d : Document) : Progress :=
  match frames with
  | [] => ⟨[], .done d⟩
  | .list items :: outer => ⟨.list (d :: items) :: outer, .separator⟩
  | .record fields name :: outer => ⟨.record ((name, d) :: fields) none :: outer, .separator⟩

/-- How deep lists and records may be nested. -/
def depthLimit : Dialect → Nat
  | .data => 127
  | .file => 128

/-- A list or record has ended that stands in some others. -/
def putNested (dialect : Dialect) (outer : List Frame) (d : Document) : Progress :=
  put outer (if outer.length < depthLimit dialect then d else .broken)

/-- A record with some fields, all of whose names have to stand for something. -/
def closeRecord (fields : OpenFields) : Document :=
  match fields.reverse.mapM fun (name, d) => name.map (·, d) with
  | some fields => .record fields
  | none => .broken

/-- The innermost list or record ends. -/
private def close? (dialect : Dialect) (c : Char) : List Frame → Option Progress
  | .list items :: outer =>
    if c = ']' then some (putNested dialect outer (.list items.reverse)) else none
  | .record fields _ :: outer =>
    if c = '\x7d' then some (putNested dialect outer (closeRecord fields)) else none
  | [] => none

/-- Takes a token where a value may stand. -/
private def takeValue? (dialect : Dialect) (frames : List Frame) (t : Token) : Option Progress :=
  match t with
  | .text (some s) => some (put frames (.text s))
  | .text none => some (put frames .broken)
  | .number s => (ofNumber? dialect s).map (put frames)
  | .word s => (ofWord? dialect s).map (put frames)
  | .mark '[' => some ⟨.list [] :: frames, .firstItem⟩
  | .mark '\x7b' => some ⟨frames, .firstName⟩
  | .mark _ => none

/-- Takes one token. -/
def Progress.take? (dialect : Dialect) (p : Progress) (t : Token) : Option Progress :=
  match p.expect, t with
  | .firstItem, .mark ']' => close? dialect ']' p.stack
  | .firstItem, t | .value, t => takeValue? dialect p.stack t
  | .firstName, .mark '\x7d' => some (putNested dialect p.stack (.record []))
  | .firstName, .text s => some ⟨p.stack, .colon [] s⟩
  | .name fields, .text s => some ⟨p.stack, .colon fields s⟩
  | .colon fields name, .mark ':' => some ⟨.record fields name :: p.stack, .value⟩
  | .separator, .mark ',' =>
    match p.stack with
    | .record fields _ :: outer => some ⟨outer, .name fields⟩
    | _ => some ⟨p.stack, .value⟩
  | .separator, .mark c => close? dialect c p.stack
  | _, _ => none

-- ============================================================ texts

/-- Whether a character may stand in a document. -/
def isAllowed (dialect : Dialect) (c : Char) : Bool :=
  match dialect with
  | .data => true
  | .file =>
    let n := c.toNat
    n < 0x7F || n == 0x85 || (0xA0 ≤ n && n != 0xFFFE && n != 0xFFFF)

/-- The document that a text is. -/
def read? (dialect : Dialect) (s : String) : Option Document :=
  if s.toList.all (isAllowed dialect) then do
    let p ← (← tokens? dialect s).foldlM (Progress.take? dialect) ⟨[], .value⟩
    match p.expect with
    | .done d => some d
    | _ => none
  else none

end HostWatch.Document

namespace HostWatch.Value

/-- The value that stored data denotes. -/
def read? (s : String) : Option Value := (Document.read? .data s).bind Document.value?

end HostWatch.Value
