/-
What a check function yields: metrics and sub-results. A sub-result has a
summary for the first line and details for the lines below it.
-/
import HostWatch.Metric
import HostWatch.State

namespace HostWatch

/-- A part of a service's result. -/
structure SubResult where
  state : State
  summary : String
  details : String
deriving DecidableEq

/-- One thing that a check function yields. -/
inductive CheckOutput where
  | metric (m : Metric)
  | result (r : SubResult)
deriving DecidableEq

namespace SubResult

/-- A sub-result whose details are its summary. -/
def ofSummary (state : State) (summary : String) : SubResult := ⟨state, summary, summary⟩

/-- A sub-result that shows in the details only. -/
def notice (state : State) (details : String) : SubResult := ⟨state, "", details⟩

end SubResult

namespace CheckOutput

/-- A sub-result whose details are its summary. -/
def ofSummary (state : State) (summary : String) : CheckOutput :=
  .result (.ofSummary state summary)

/-- A sub-result that shows in the details only. -/
def notice (state : State) (details : String) : CheckOutput := .result (.notice state details)

/-- A metric without levels and bounds. -/
def ofValue (name : String) (value : Float) : CheckOutput := .metric { name, value }

/-- The metric that an output is. -/
def metric? : CheckOutput → Option Metric
  | .metric m => some m
  | .result _ => none

/-- The sub-result that an output is. -/
def result? : CheckOutput → Option SubResult
  | .metric _ => none
  | .result r => some r

/-- The metrics of some outputs. -/
def metrics (outputs : List CheckOutput) : List Metric := outputs.filterMap metric?

/-- The sub-results of some outputs. -/
def results (outputs : List CheckOutput) : List SubResult := outputs.filterMap result?

/-- The worst state of some outputs' sub-results, if there are any. -/
def worstState? (outputs : List CheckOutput) : Option State :=
  State.worstOf? ((results outputs).map (·.state))

/-- The first summary that is not empty. -/
def firstSummary? (outputs : List CheckOutput) : Option String :=
  ((results outputs).map (·.summary)).find? (· != "")

end CheckOutput

end HostWatch
