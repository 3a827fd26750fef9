/-
The memory of a host: the section `mem` with a counter in each row, the
check of the same name for the part that is used, and the inventory of
what there is.
-/
import HostWatch.Check.Plugin
import HostWatch.Decimal.Integer
import HostWatch.Inventory.Plugin
import HostWatch.Levels
import HostWatch.Section.Plugin
import HostWatch.Text.Blank

namespace HostWatch.Memory

-- ==================================================== the section

/-- A counter in a row of the section. -/
structure Counter where
  name : String
  amount : Nat
  /-- The number of bytes in a unit of the amount. -/
  unit : Nat
deriving DecidableEq, Repr

/-- The counter in bytes. -/
def Counter.bytes (c : Counter) : Nat := c.amount * c.unit

/-- The counter in a row: a name that may end in colons, a number and perhaps a unit. -/
def readCounter? (row : List String) : Option Counter :=
  match row with
  | name :: amount :: rest =>
    (Decimal.readUnsigned64? amount.toList).map fun amount =>
      { name := String.ofList (Text.dropEndWhile (· == ':') name.toList)
        amount
        unit := if rest.head? == some "kB" then 1024 else 1 }
  | _ => none

/-- The counters of the rows that hold one. -/
def readCounters (rows : Table) : List Counter := rows.filterMap readCounter?

/-- Counters as a value, by name; the last of a name stays. -/
def countersValue (counters : List Counter) : Value :=
  .ofPairs (counters.map fun c => (c.name, .int c.bytes))

/-- Reads the section. It breaks off at a counter that has too many bytes for 64 bits. -/
def parse (rows : Table) : ParseOutcome :=
  let counters := readCounters rows
  if counters.any fun c => Decimal.maxUnsigned64 < c.bytes then
    .crashed "attempt to multiply with overflow"
  else if counters.isEmpty then .failed "no memory counters"
  else .value (countersValue counters)

/-- The section plugin. -/
def sectionPlugin : SectionPlugin := { name := "mem", parse }

-- ==================================================== the check

/-- The counter of all memory. -/
def totalName : String := "MemTotal"

/-- The counter of the memory that can be had. -/
def availableName : String := "MemAvailable"

/-- A number of bytes as a text. -/
def gibibytes (bytes : Float) : String := Decimal.fixedText 2 (bytes / 1073741824) ++ " GiB"

/-- The outputs for two amounts in bytes. -/
def outputs (total available : Float) (levels : Option Levels) : List CheckOutput :=
  let used := total - available
  let percent := used / total * 100
  let state := Levels.state levels percent
  let metric : Metric :=
    { name := "mem_used_percent", value := percent, warn := levels.map (·.warn),
      crit := levels.map (·.crit), min := some 0, max := some 100 }
  [.ofSummary state
      (s!"RAM: {Decimal.fixedText 2 percent}% used - {gibibytes used} of {gibibytes total}" ++
        Levels.remark levels state),
    .metric metric, .ofValue "mem_used" used]

/-- The number that a section holds under a name. -/
private def number? (content : Option Value) (name : String) : Option Float :=
  (content.bind (·.field? name)).bind Value.float?

/-- How the check ends on a section. -/
def ending (content : Option Value) (levels : Option Levels) : Ending :=
  match number? content totalName, number? content availableName with
  | some total, some available =>
    if total ≤ 0 then .failed "MemTotal is zero" else .yielded (outputs total available levels)
  | _, _ => .failed "MemTotal or MemAvailable missing"

/-- The check plugin. -/
def checkPlugin : CheckPlugin where
  name := "mem"
  sections := ["mem"]
  function call _ values :=
    { ending := ending (call.sections.section? "mem")
        (call.params.bind fun params => params.levels? "levels")
      values }
  defaults := some (.ofPairs [("levels", .list [.float 80, .float 90])])
  ruleset := some "memory"

-- ==================================================== the inventory

/-- A column with a field of the section, if there is that field. -/
private def column (content : Value) (name field : String) : Fields :=
  match content.field? field with
  | some v => .ofList [(name, v)]
  | none => ∅

/-- The item for a section. -/
def item (content : Value) : InventoryItem :=
  .attributes ["hardware", "memory"] (column content "available_ram" availableName)
    (column content "total_ram_usable" totalName)

/-- The inventory plugin. -/
def inventoryPlugin : InventoryPlugin where
  name := "inventory_mem"
  sections := ["mem"]
  function call := .found ((call.sections.section? "mem").toList.map item)

end HostWatch.Memory
