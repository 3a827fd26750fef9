/-
Measured values with the levels and bounds that go with them.
-/
import HostWatch.Decimal.Plain
import HostWatch.Text.Blank
import HostWatch.Document.Decode

namespace HostWatch

/-- A measured value. -/
structure Metric where
  name : String
  value : Float
  warn : Option Float := none
  crit : Option Float := none
  min : Option Float := none
  max : Option Float := none
deriving DecidableEq

namespace Metric

/-- The text of a value that may be absent. -/
private def optional : Option Float → String
  | some x => Decimal.plainText x
  | none => ""

/-- The line for a performance graph: the fields between semicolons, none of them at its end. -/
def perfdata (m : Metric) : String :=
  let fields := [Decimal.plainText m.value, optional m.warn, optional m.crit, optional m.min,
    optional m.max]
  let text := m.name ++ "=" ++ ";".intercalate fields
  String.ofList (Text.dropEndWhile (· == ';') text.toList)

/-- A value that may be absent, as a value. -/
private def optionalValue : Option Float → Value
  | some x => .ofFloat x
  | none => .null

/-- A metric as a value. -/
def toValue (m : Metric) : Value :=
  .ofPairs [("name", .text m.name), ("value", .ofFloat m.value), ("warn", optionalValue m.warn),
    ("crit", optionalValue m.crit), ("min", optionalValue m.min), ("max", optionalValue m.max)]

/-- Reads a metric. -/
def decode : Decoder Metric := fun d => do
  let slot ← Slot.ofDocument? .data ["name", "value", "warn", "crit", "min", "max"] d
  let name ← (slot "name").required Decoder.text
  let value ← (slot "value").required Decoder.float
  let warn ← (slot "warn").optional Decoder.float
  let crit ← (slot "crit").optional Decoder.float
  let min ← (slot "min").optional Decoder.float
  let max ← (slot "max").optional Decoder.float
  pure { name, value, warn, crit, min, max }

end Metric

end HostWatch
