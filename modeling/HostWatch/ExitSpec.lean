/-
The states that problems with the data of a host lead to.
-/
import HostWatch.Source
import HostWatch.State
import HostWatch.Document.Decode

namespace HostWatch

/-- The states for missing data and for failures of sources. -/
structure ExitSpec where
  missingSections : State := .warn
  /-- Patterns for names of plugins, and the state where data for one is missing. -/
  specificMissing : List (String × State) := []
  exception : State := .unknown
  emptyOutput : State := .crit
  connection : State := .crit
  timeout : State := .crit
deriving DecidableEq, Repr

namespace ExitSpec

/-- The names of the fields, in the order of their list form. -/
private def fieldNames : List String :=
  ["missing_sections", "specific_missing_sections", "exception", "empty_output", "connection",
    "timeout"]

/-- Reads the states; those that are missing have their defaults. -/
def decode (dialect : Dialect) : Decoder ExitSpec := fun d => do
  let slot ← Slot.ofDocument? dialect fieldNames d
  let missingSections ← (slot "missing_sections").withDefault .warn State.decode
  let specificMissing ← (slot "specific_missing_sections").withDefault []
    (Decoder.list (Decoder.pair Decoder.text State.decode))
  let exception ← (slot "exception").withDefault .unknown State.decode
  let emptyOutput ← (slot "empty_output").withDefault .crit State.decode
  let connection ← (slot "connection").withDefault .crit State.decode
  let timeout ← (slot "timeout").withDefault .crit State.decode
  pure { missingSections, specificMissing, exception, emptyOutput, connection, timeout }

/-- The states as a value. -/
def toValue (e : ExitSpec) : Value :=
  .ofPairs [("missing_sections", e.missingSections.toValue),
    ("specific_missing_sections", .list (e.specificMissing.map fun (pattern, state) =>
      .list [.text pattern, state.toValue])),
    ("exception", e.exception.toValue), ("empty_output", e.emptyOutput.toValue),
    ("connection", e.connection.toValue), ("timeout", e.timeout.toValue)]

/-- The state for a source that could not be read. -/
def ofFetchError (e : ExitSpec) : FetchError → State
  | .connection _ => e.connection
  | .timeout _ => e.timeout
  | .emptyOutput => e.emptyOutput
  | .other _ => e.exception

end ExitSpec

end HostWatch
