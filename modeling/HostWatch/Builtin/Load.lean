/-
The load of a host: the section `cpu` with three averages and the number
of cores, and the check `cpu_loads` for the last of the averages.
-/
import HostWatch.Builtin.Uptime
import HostWatch.Levels
import HostWatch.Document.Decode

namespace HostWatch.Load

/-- The number of cores: the first cell of the second row, if it is a number. -/
def readCores? (rows : Table) : Option Nat :=
  match rows with
  | _ :: (cell :: _) :: _ => Decimal.readUnsigned64? cell.toList
  | _ => none

/-- A number of cores as a value. -/
private def coresValue : Option Nat → Value
  | some n => .int n
  | none => .null

/-- Reads the section. -/
def parse (rows : Table) : ParseOutcome :=
  let averages := Uptime.firstNumbers rows
  if averages.length < 3 then .failed s!"expected 3 load averages, got {averages.length}"
  else
    .value (.ofPairs [("load", .list ((averages.take 3).map .ofFloat)),
      ("num_cpus", coresValue (readCores? rows))])

/-- The section plugin. -/
def sectionPlugin : SectionPlugin := { name := "cpu", parse }

/-- The averages that a section holds. -/
def averages (content : Value) : List Float :=
  (((content.field? "load").bind Value.items?).getD []).filterMap Value.float?

/-- The number of cores that a section holds, if there are any. -/
def cores? (content : Value) : Option Nat :=
  ((content.field? "num_cpus").bind (Value.nat? Decimal.maxUnsigned64)).filter (0 < ·)

/-- What is said of the load of each core. -/
def perCore (load : Float) (cores : Nat) : CheckOutput :=
  let each := Decimal.fixedText 2 (load / Float.ofNat cores)
  .notice .ok s!"15 min load per core: {each} ({cores} cores)"

/-- The outputs for the averages over 1, 5 and 15 minutes. -/
def outputs (load1 load5 load15 : Float) (cores : Option Nat) (levels : Option Levels) :
    List CheckOutput :=
  let state := Levels.state levels load15
  let headline := CheckOutput.ofSummary state
    (s!"15 min load: {Decimal.fixedText 2 load15}" ++ Levels.remark levels state)
  let metric : Metric :=
    { name := "load15", value := load15, warn := levels.map (·.warn), crit := levels.map (·.crit) }
  headline :: (cores.map (perCore load15)).toList ++
    [.ofValue "load1" load1, .ofValue "load5" load5, .metric metric]

/-- How the check ends on a section. -/
def ending (content : Option Value) (levels : Option Levels) : Ending :=
  match content with
  | none => .failed "cpu section missing"
  | some content =>
    match averages content with
    | [load1, load5, load15] => .yielded (outputs load1 load5 load15 (cores? content) levels)
    | _ => .failed "expected 3 load averages"

/-- The check plugin. -/
def checkPlugin : CheckPlugin where
  name := "cpu_loads"
  sections := ["cpu"]
  function call _ values :=
    { ending := ending (call.sections.section? "cpu")
        (call.params.bind fun params => params.levels? "levels")
      values }
  defaults := some (.ofPairs [("levels", .list [.float 5, .float 10])])
  ruleset := some "cpu_load"

end HostWatch.Load
