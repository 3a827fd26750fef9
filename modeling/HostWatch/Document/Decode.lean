/-
Reading domain types out of documents.

A structure is written as a record, in data also as the list of its fields
in order. Unknown fields of a record are ignored, and so is all that is in
them; surplus items of a list are not ignored, and no field of a structure
is given twice. `null` stands for an absent value only where a value is
optional.
-/
import HostWatch.Document
import HostWatch.Document.Token

namespace HostWatch

/-- Reads a value of type `α` out of a document. -/
abbrev Decoder (α : Type) := Document → Option α

namespace Decoder

/-- What a decoder reads out of a value. -/
def ofValue? (d : Decoder α) (v : Value) : Option α := d (.ofValue v)

/-- A text. In a file a number, a truth value or `null` without quotes is a text, too. -/
def text : Decoder String
  | .text s | .plain s => some s
  | _ => none

/-- A truth value. -/
def bool : Decoder Bool
  | .bool b => some b
  | .plain "true" => some true
  | .plain "false" => some false
  | _ => none

/-- A whole number from 0 to `max`, in a file without a sign. -/
def nat (max : Nat) : Decoder Nat
  | .plain s => (Decimal.readDigits? s.toList).filter (· ≤ max)
  | d => d.value?.bind (Value.nat? max)

/-- A signed number of 64 bits. -/
def signed64 : Decoder Int
  | .int n => if Decimal.minSigned64 ≤ n ∧ n ≤ Decimal.maxSigned64 then some n else none
  | .plain s => Decimal.readSigned64? s.toList
  | _ => none

/-- A number, as a double. -/
def float : Decoder Float := fun d => d.value?.bind Value.float?

/-- Any value. -/
def any : Decoder Value := Document.value?

/-- A value or `null`. -/
def optional (d : Decoder α) : Decoder (Option α)
  | .null | .plain "null" => some none
  | doc => (d doc).map some

/-- A list. -/
def list (d : Decoder α) : Decoder (List α)
  | .list items => items.mapM d
  | _ => none

/-- A pair, written as a list of two. -/
def pair (first : Decoder α) (second : Decoder β) : Decoder (α × β)
  | .list [a, b] => do pure (← first a, ← second b)
  | _ => none

/-- A record with fields of one kind, the last of a name counting. -/
def map (d : Decoder α) : Decoder (SortedMap String α)
  | .record fields =>
    (fields.mapM fun field => (d field.2).map fun a => (field.1, a)).map SortedMap.ofList
  | _ => none

/-- One of some named values; in data, its name may also be that of a field with nothing in it. -/
def enumeration (all : List α) (name : α → String) : Decoder α := fun d =>
  let named (s : String) := all.find? fun a => name a == s
  match d with
  | .record [(s, .null)] => named s
  | d => (text d).bind named

end Decoder

/-- What is found where a field of a structure may stand. -/
inductive Slot where
  | given (d : Document)
  /-- The record has no such field. -/
  | absent
  /-- The list of fields has ended. -/
  | cut

namespace Slot

/-- A field that has to be there. -/
def required (d : Decoder α) : Slot → Option α
  | .given doc => d doc
  | .absent | .cut => none

/-- A field whose value may be missing from a record. -/
def optional (d : Decoder α) : Slot → Option (Option α)
  | .given doc => d.optional doc
  | .absent => some none
  | .cut => none

/-- A field that has a value even where it is missing. -/
def withDefault (default : α) (d : Decoder α) : Slot → Option α
  | .given doc => d doc
  | .absent | .cut => some default

/-- The slots of a structure whose field names are `names`. -/
def ofDocument? (dialect : Dialect) (names : List String) :
    Document → Option (String → Slot)
  | .record fields =>
    if (Document.record fields).repeats names then none
    else
      some fun name =>
        match fields.lookup name with
        | some d => .given d
        | none => .absent
  | .list items =>
    if dialect = .file ∨ names.length < items.length then none
    else
      some fun name =>
        match (names.zip items).lookup name with
        | some d => .given d
        | none => .cut
  | _ => none

end Slot

end HostWatch
