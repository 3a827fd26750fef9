/-
Made-up plugins, described by records.
-/
import HostWatch.Builtin
import HostWatch.Rehearsal.Script

namespace HostWatch.Rehearsal

open Lenient

/-- Reads a check plugin. A section of a cluster is that of the first node that has it. -/
def checkPlugin (v : Value) : CheckPlugin where
  name := text v "name"
  sections := texts v "sections"
  function call service values :=
    (Script.ofValue (field v "do")).run call.sections.section? service values
  clusterFunction := (given? v "cluster_do").map fun script call service values =>
    (Script.ofValue script).run
      (fun name => call.nodes.values.findSome? fun sections => sections.section? name)
      service values
  defaults := v.field? "defaults"
  ruleset := text? v "ruleset"

-- ==================================================== section plugins

/-- The second cells of the rows of a table by the first ones. -/
def tableRecord (rows : Table) : Value :=
  .ofPairs (rows.filterMap fun row =>
    match row with
    | key :: cell :: _ => some (key, .text cell)
    | _ => none)

/-- The first cell of the first row of a table. -/
def tableCell : Table → Value
  | (cell :: _) :: _ => .text cell
  | _ => .null

/-- Reads how rows are parsed regardless of what they hold. -/
def fixedOutcome (v : Value) : ParseOutcome :=
  match Script.crashOf? v with
  | some message => .crashed message
  | none => if has v "error" then .failed (text v "error") else .value (field v "value")

/-- Reads how the rows of a section are parsed. -/
def parseOf (name : SectionName) : Option Value → Table → ParseOutcome
  | some (.text "null"), _ => .value .null
  | some (.text "object"), rows => .value (tableRecord rows)
  | some (.text "scalar"), rows => .value (tableCell rows)
  | some (.text "builtin"), rows =>
    ((Builtin.sectionPlugins.find? fun p => p.name == name).getD (.trivial name)).parse rows
  | some (.record fields), _ => fixedOutcome (.record fields)
  | _, rows => (SectionPlugin.trivial name).parse rows

/-- Reads a section plugin. -/
def sectionPlugin (v : Value) : SectionPlugin :=
  let name := text v "name"
  { name
    parsedName := (text? v "parsed_name").getD name
    supersedes := texts v "supersedes"
    parse := parseOf name (v.field? "parse") }

-- ==================================================== inventory plugins

/-- Reads an inventory item. -/
def inventoryItem (v : Value) : InventoryItem where
  path := texts v "path"
  keyColumns := (field v "keys").fields?
  inventory := (field v "inventory").fields?.getD ∅
  status := (field v "status").fields?.getD ∅

/-- An item with what a function is given: a section, and the parameters. -/
def echoItem (name : ParsedName) (call : InventoryCall) : InventoryItem :=
  .attributes ["from", name] (.ofList [
    ("data", (call.sections.section? name).getD .null),
    ("params", (call.params.map Value.ofFields).getD .null)])

/-- Reads an inventory plugin. -/
def inventoryPlugin (v : Value) : InventoryPlugin where
  name := text v "name"
  sections := texts v "sections"
  ruleset := text? v "ruleset"
  function call :=
    match Script.crashOf? v with
    | some message => .crashed message
    | none =>
      if has v "error" then .failed (text v "error")
      else
        .found ((items v "items").map inventoryItem ++
          ((text? v "items_from").map fun name => echoItem name call).toList)

/-- Reads inventory plugins, of which the last of a name stays. -/
def inventoryRegistry (plugins : List Value) : InventoryRegistry :=
  .ofList ((plugins.map inventoryPlugin).map fun p => (p.name, p))

end HostWatch.Rehearsal
