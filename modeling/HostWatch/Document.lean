/-
Documents: what a written text says, before it is known what it is about.

A document keeps what a value forgets: the spelling of numbers and bare
words in files, the order of fields, and fields whose name occurs again.
Some parts are well formed and still stand for nothing, such as a number
that no double holds; they do no harm where nobody asks for them.
-/
import HostWatch.Decimal.Reader
import HostWatch.Value

namespace HostWatch

/-- What a written text says. -/
inductive Document where
  | null
  | bool (b : Bool)
  | int (n : Int)
  | float (x : Float)
  | text (s : String)
  /-- A number or a bare word in a file, as it is written. -/
  | plain (written : String)
  | list (items : List Document)
  /-- A record, with its fields in the order in which they are written. -/
  | record (fields : List (String × Document))
  /-- A part that stands for nothing. -/
  | broken
deriving Inhabited, Repr

namespace Document

-- ==================================================== from values

mutual

/-- The document that says what a value is. -/
def ofValue : Value → Document
  | .null => .null
  | .bool b => .bool b
  | .int n => .int n
  | .float x => .float x
  | .text s => .text s
  | .list items => .list (ofItems items)
  | .record fields => .record (ofFields fields)

/-- The documents of the items of a list. -/
def ofItems : List Value → List Document
  | [] => []
  | v :: rest => ofValue v :: ofItems rest

/-- The documents of the fields of a record. -/
def ofFields : List (String × Value) → List (String × Document)
  | [] => []
  | (name, v) :: rest => (name, ofValue v) :: ofFields rest

end

-- ==================================================== numbers and words

/-- Whether a number has 128 bits. -/
private def isWide (n : Int) : Bool :=
  -170141183460469231731687303715884105728 ≤ n && n ≤ 340282366920938463463374607431768211455

/-- The double that a number is nearest to; one that no double is near to is a text. -/
def nearestOrText (written : String) : Value :=
  match Decimal.readFloat? written.toList with
  | some x => if x.isFinite then .float x else .text written
  | none => .text written

/--
The value of a number or a bare word in a file. A whole number has 64 bits, or more than 128, where
it is a double.
-/
def plainValue? (written : String) : Option Value :=
  match written with
  | "null" => some .null
  | "true" => some (.bool true)
  | "false" => some (.bool false)
  | _ =>
    match Decimal.readInteger? written.toList with
    | some n =>
      if Decimal.minSigned64 ≤ n ∧ n ≤ (Decimal.maxUnsigned64 : Int) then some (.int n)
      else if isWide n then none
      else some (nearestOrText written)
    | none => some (nearestOrText written)

-- ==================================================== to values

mutual

/-- The value that a document denotes. Of the fields of one name the last one stays. -/
def value? : Document → Option Value
  | .null => some .null
  | .bool b => some (.bool b)
  | .int n => some (.int n)
  | .float x => some (.float x)
  | .text s => some (.text s)
  | .plain written => plainValue? written
  | .list items => (itemValues? items).map .list
  | .record fields => (fieldValues? fields).map .ofPairs
  | .broken => none

/-- The values of the items of a list. -/
def itemValues? : List Document → Option (List Value)
  | [] => some []
  | d :: rest => do pure ((← value? d) :: (← itemValues? rest))

/-- The values of the fields of a record. -/
def fieldValues? : List (String × Document) → Option (List (String × Value))
  | [] => some []
  | (name, d) :: rest => do pure ((name, ← value? d) :: (← fieldValues? rest))

end

-- ==================================================== fields

/-- Whether one of some names occurs again among the fields of a record. -/
def repeats (names : List String) : Document → Bool
  | .record fields => names.any fun name => 1 < fields.countP fun field => field.1 == name
  | _ => false

/-- A field of a record. -/
def field? (name : String) : Document → Option Document
  | .record fields => fields.lookup name
  | _ => none

end Document

end HostWatch
