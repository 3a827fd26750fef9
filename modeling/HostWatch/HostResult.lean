/-
The result of a run on a host, put together from the results of its parts.
-/
import HostWatch.State

namespace HostWatch

/-- A state, a summary, and the details and metrics that go with it. -/
structure HostResult where
  state : State
  summary : String
  details : List String := []
  metrics : List String := []
deriving DecidableEq

namespace HostResult

/-- The worst state, the summaries with their markers, and all details and metrics. -/
def combine (parts : List HostResult) : HostResult where
  state := State.worstOrOk (parts.map (·.state))
  summary := ", ".intercalate
    ((parts.filter (·.summary != "")).map fun p => p.summary ++ p.state.marker)
  details := parts.flatMap (·.details)
  metrics := parts.flatMap (·.metrics)

/-- The summary with the metrics behind a bar, and the details on lines of their own. -/
def text (r : HostResult) : String :=
  let headline :=
    if r.metrics.isEmpty then r.summary
    else r.summary ++ " | " ++ " ".intercalate r.metrics
  "\n".intercalate (headline :: r.details)

/-- A result as a value. -/
def toValue (r : HostResult) : Value :=
  .ofPairs [("state", r.state.toValue), ("summary", .text r.summary),
    ("details", .ofTexts r.details), ("metrics", .ofTexts r.metrics)]

/-- Reads a result. -/
def decode : Decoder HostResult := fun d => do
  let slot ← Slot.ofDocument? .data ["state", "summary", "details", "metrics"] d
  let text := Decoder.text
  let state ← (slot "state").required State.decode
  let summary ← (slot "summary").required text
  let details ← (slot "details").required (Decoder.list text)
  let metrics ← (slot "metrics").required (Decoder.list text)
  pure { state, summary, details, metrics }

end HostResult

end HostWatch
