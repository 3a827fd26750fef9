/-
Lenient access to the fields of a record: a field that is missing, or that
is of another kind than expected, counts as empty.
-/
import HostWatch.Decimal.Bits
import HostWatch.Value

namespace HostWatch.Lenient

/-- A field; `null` where there is none. -/
def field (v : Value) (name : String) : Value := (v.field? name).getD .null

/-- Whether there is a field. -/
def has (v : Value) (name : String) : Bool := (v.field? name).isSome

/-- A field that is there and not `null`. -/
def given? (v : Value) (name : String) : Option Value :=
  match v.field? name with
  | some .null | none => none
  | some content => some content

/-- A text. -/
def text? (v : Value) (name : String) : Option String := (field v name).text?

/-- A text; empty by default. -/
def text (v : Value) (name : String) : String := (text? v name).getD ""

/-- A truth value; false by default. -/
def flag (v : Value) (name : String) : Bool :=
  match field v name with
  | .bool b => b
  | _ => false

/-- The items of a list. -/
def items (v : Value) (name : String) : List Value := (field v name).items?.getD []

/-- The texts of a list. -/
def texts (v : Value) (name : String) : List String := (items v name).filterMap Value.text?

/-- The fields of a record. -/
def fields (v : Value) (name : String) : List (String × Value) :=
  match field v name with
  | .record fields => fields
  | _ => []

/-- A whole number; 0 by default. -/
def int (v : Value) (name : String) : Int :=
  match field v name with
  | .int n => n
  | _ => 0

/-- The double that a number denotes, or a text with its bits. -/
def double? : Value → Option Float
  | .text s => some (Decimal.ofBitsText s)
  | v => v.float?

/-- A double; 0 by default. -/
def double (v : Value) (name : String) : Float := (double? (field v name)).getD 0

/-- The bytes of a text, or those that hexadecimal digits denote. -/
def bytes : Value → ByteArray
  | .text s => s.toUTF8
  | v => ⟨(Decimal.readHexBytes (text v "hex").toList).toArray⟩

theorem sizeOf_find?_lt {name : String} {fields : List (String × Value)} {w : Value}
    (h : SortedMap.find? name fields = some w) : sizeOf w < sizeOf fields := by
  induction fields with
  | nil => simp [SortedMap.find?] at h
  | cons e rest ih =>
    obtain ⟨n, v⟩ := e
    simp only [SortedMap.find?] at h
    split at h
    · cases h
      simp only [List.cons.sizeOf_spec, Prod.mk.sizeOf_spec]
      omega
    · have := ih h
      simp only [List.cons.sizeOf_spec]
      omega

/-- A field is smaller than the record that it is in. -/
theorem sizeOf_field?_lt {v w : Value} {name : String} (h : v.field? name = some w) :
    sizeOf w < sizeOf v := by
  cases v with
  | record fields =>
    have : sizeOf w < sizeOf fields := sizeOf_find?_lt h
    simp only [Value.record.sizeOf_spec]
    omega
  | _ => simp [Value.field?] at h

end HostWatch.Lenient
