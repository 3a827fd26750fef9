/-
Data values: what sections hold after parsing, what parameters are made
of, what a plugin stores between two runs.

Whole numbers and doubles are told apart: `80` and `80.0` are different
values. The fields of a record are kept by increasing name, as the entries
of a `SortedMap` are.
-/
import HostWatch.SortedMap

namespace HostWatch

/-- A data value. -/
inductive Value where
  | null
  | bool (b : Bool)
  | int (n : Int)
  | float (x : Float)
  | text (s : String)
  | list (items : List Value)
  | record (fields : List (String × Value))
deriving Inhabited, BEq, Repr

/-- A record's fields as a map. -/
abbrev Fields := SortedMap String Value

namespace Value

/-- The record with the fields of a map. -/
def ofFields (fields : Fields) : Value := .record fields.entries

/-- The record with the fields of a list, of which the last of a name stays. -/
def ofPairs (fields : List (String × Value)) : Value := ofFields (SortedMap.ofList fields)

/-- A double as a value; what is no finite number has no value but `null`. -/
def ofFloat (x : Float) : Value := if x.isFinite then .float x else .null

/-- A text or `null`. -/
def ofText? : Option String → Value
  | some s => .text s
  | none => .null

/-- The list of some texts. -/
def ofTexts (texts : List String) : Value := .list (texts.map .text)

/-- Whether a value is a record. -/
def isRecord : Value → Bool
  | .record _ => true
  | _ => false

/-- The fields of a record. -/
def fields? : Value → Option Fields
  | .record fields => some (SortedMap.ofList fields)
  | _ => none

/-- The field `name` of a record. -/
def field? (name : String) : Value → Option Value
  | .record fields => SortedMap.find? name fields
  | _ => none

/-- The items of a list. -/
def items? : Value → Option (List Value)
  | .list items => some items
  | _ => none

/-- The text of a value that is one. -/
def text? : Value → Option String
  | .text s => some s
  | _ => none

/-- The whole number from 0 to `max` that a value is. -/
def nat? (max : Nat) : Value → Option Nat
  | .int n => if 0 ≤ n ∧ n ≤ max then some n.toNat else none
  | _ => none

/-- The number that a value is, as a double. -/
def float? : Value → Option Float
  | .int n => some (Float.ofInt n)
  | .float x => some x
  | _ => none

end Value

end HostWatch
