/-
How long a host has been up: the section `uptime`, whose first number is
the time in seconds, and the check of the same name.
-/
import HostWatch.Check.Plugin
import HostWatch.Decimal.Reader
import HostWatch.Section.Plugin

namespace HostWatch.Uptime

/-- The numbers in the first row of a table; cells that are no numbers do not count. -/
def firstNumbers (rows : Table) : List Float :=
  match rows with
  | [] => []
  | row :: _ => row.filterMap fun cell => Decimal.readFloat? cell.toList

/-- The field that holds the time. -/
def fieldName : String := "uptime_sec"

/-- Reads the section. -/
def parse (rows : Table) : ParseOutcome :=
  match firstNumbers rows with
  | [] => .failed "no uptime value"
  | seconds :: _ => .value (.ofPairs [(fieldName, .ofFloat seconds)])

/-- The section plugin. -/
def sectionPlugin : SectionPlugin := { name := "uptime", parse }

/-- A number of seconds as days, hours, minutes and seconds. -/
def timespan (total : Nat) : String :=
  let rest := total % 86400
  let pair := Decimal.padded 2
  let clock := s!"{pair (rest / 3600)}:{pair (rest % 3600 / 60)}:{pair (rest % 60)}"
  match total / 86400 with
  | 0 => clock
  | 1 => s!"1 day {clock}"
  | days => s!"{days} days {clock}"

/-- The whole seconds of a time; none of a negative one, and at most as many as 64 bits hold. -/
def wholeSeconds (seconds : Float) : Nat := seconds.toUInt64.toNat

/-- The outputs for a time. -/
def outputs (seconds : Float) : List CheckOutput :=
  [.ofSummary .ok s!"Up since {timespan (wholeSeconds seconds)}", .ofValue "uptime" seconds]

/-- How the check ends on a section. -/
def ending (content : Option Value) : Ending :=
  match (content.bind (·.field? fieldName)).bind Value.float? with
  | none => .failed "uptime section without value"
  | some seconds => .yielded (outputs seconds)

/-- The check plugin. -/
def checkPlugin : CheckPlugin where
  name := "uptime"
  sections := ["uptime"]
  function call _ values := { ending := ending (call.sections.section? "uptime"), values }

end HostWatch.Uptime
