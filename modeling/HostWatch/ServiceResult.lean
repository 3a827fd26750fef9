/-
The result of a service, and how a check function's outputs are reduced to
one: the worst state, the summaries on the first line and the details
below it.
-/
import HostWatch.CheckOutput

namespace HostWatch

/-- A state, a text and the metrics of a service. -/
structure ServiceResult where
  state : State
  output : String
  metrics : List Metric := []
deriving DecidableEq

namespace ServiceResult

/-- The result of a check function that yields no sub-result. -/
def itemNotFound : ServiceResult := ⟨.unknown, "Item not found in monitoring data", []⟩

/-- The result of a service for which no data has arrived. -/
def receivedNoData : ServiceResult := ⟨.unknown, "Check plugin received no monitoring data", []⟩

/-- The result of a service whose check plugin does not exist. -/
def notImplemented : ServiceResult := ⟨.unknown, "Check plugin not implemented", []⟩

/-- The result of a clustered service for which no node has data. -/
def clusterReceivedNoData (nodes : List String) : ServiceResult :=
  let hint :=
    if nodes.isEmpty then "no nodes configured"
    else "configured nodes: " ++ ", ".intercalate nodes
  ⟨.unknown, s!"Clustered service received no monitoring data ({hint})", []⟩

/-- The first line of the text. -/
def summary (r : ServiceResult) : String :=
  match Text.lines r.output.toList with
  | [] => ""
  | line :: _ => String.ofList line

/-- The first line when no sub-result has a summary. -/
def detailsHeadline (count : Nat) : String :=
  let noun := if count = 1 then "detail" else "details"
  s!"Everything looks OK - {count} {noun} available"

/-- The marker that a sub-result's texts get; a sub-result that stands alone needs none. -/
private def markerAmong (results : List SubResult) (r : SubResult) : String :=
  if 1 < results.length then r.state.marker else ""

/-- The first line: the summaries with their markers. -/
def headline (results : List SubResult) : String :=
  let summaries := (results.filter (·.summary != "")).map fun r =>
    withMarker r.summary (markerAmong results r)
  if summaries.isEmpty then detailsHeadline results.length else ", ".intercalate summaries

/-- The lines below the first: the details with their markers. -/
def detailLines (results : List SubResult) : List String :=
  results.map fun r => withMarker r.details (markerAmong results r)

/-- The one result that a check function's outputs amount to. -/
def ofOutputs (outputs : List CheckOutput) : ServiceResult :=
  let results := CheckOutput.results outputs
  if results.isEmpty then itemNotFound
  else
    let text := "\n".intercalate (headline results :: detailLines results)
    { state := State.worstOrOk (results.map (·.state))
      output := String.ofList (Text.trim text.toList)
      metrics := CheckOutput.metrics outputs }

/-- A result as a value. -/
def toValue (r : ServiceResult) : Value :=
  .ofPairs [("state", r.state.toValue), ("output", .text r.output),
    ("metrics", .list (r.metrics.map Metric.toValue))]

/-- Reads a result. -/
def decode : Decoder ServiceResult := fun d => do
  let slot ← Slot.ofDocument? .data ["state", "output", "metrics"] d
  let state ← (slot "state").required State.decode
  let output ← (slot "output").required Decoder.text
  let metrics ← (slot "metrics").required (Decoder.list Metric.decode)
  pure { state, output, metrics }

end ServiceResult

end HostWatch
