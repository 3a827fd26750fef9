/-
Section plugins turn the rows of a section into a value, and may supersede
other sections: when both are there, the superseded one is as good as
absent. A catalog of plugins is refused if supersession runs in a circle.
-/
import HostWatch.Agent.Sections
import HostWatch.Value

namespace HostWatch

/-- What becomes of the rows of a section. -/
inductive ParseOutcome where
  /-- A value; `null` means that there is nothing in the section. -/
  | value (v : Value)
  /-- The rows make no sense to the plugin. -/
  | failed (message : String)
  /-- The plugin broke off. -/
  | crashed (message : String)

/-- A section plugin. -/
structure SectionPlugin where
  name : SectionName
  /-- The name under which checks ask for the value. -/
  parsedName : ParsedName := name
  /-- The sections that do not count where this one has a value. -/
  supersedes : List SectionName := []
  parse : Table → ParseOutcome

namespace SectionPlugin

/-- A table as a value: a list of rows, each a list of texts. -/
def tableValue (rows : Table) : Value := .list (rows.map Value.ofTexts)

/-- The plugin of a section that has none of its own: its value is the table. -/
def trivial (name : SectionName) : SectionPlugin where
  name := name
  parse rows := .value (tableValue rows)

/-- The superseded sections by increasing name, each once. -/
def supersededNames (p : SectionPlugin) : List SectionName :=
  (SortedMap.ofList (p.supersedes.map (·, ()))).keys

end SectionPlugin

/-- Section plugins by name. -/
abbrev SectionPlugins := SortedMap SectionName SectionPlugin

namespace SectionPlugins

/-- The sections that a section supersedes, none if it has no plugin. -/
def superseded (plugins : SectionPlugins) (name : SectionName) : List SectionName :=
  match plugins.get? name with
  | some plugin => plugin.supersededNames
  | none => []

mutual

/--
Follows supersession from `name`. The path that led there runs backwards from its end; `fresh` are
the plugins that are not on it. The result is a circle, or the names from which none can be reached.
-/
def search (plugins : SectionPlugins) (fresh path clear : List SectionName)
    (name : SectionName) : Except (List SectionName) (List SectionName) :=
  if name ∈ clear then .ok clear
  else if name ∈ path then
    .error (name :: (name :: path.takeWhile (· != name)).reverse)
  else if _h : name ∈ fresh then
    match searchAll plugins (fresh.erase name) (name :: path) clear
        (superseded plugins name) with
    | .ok clear => .ok (name :: clear)
    | .error circle => .error circle
  else .ok (name :: clear)
termination_by (fresh.length, 0)
decreasing_by
  have := List.length_erase_of_mem _h
  have := List.length_pos_of_mem _h
  omega

/-- Follows supersession from each of some names in turn. -/
def searchAll (plugins : SectionPlugins) (fresh path clear : List SectionName) :
    List SectionName → Except (List SectionName) (List SectionName)
  | [] => .ok clear
  | name :: rest =>
    match search plugins fresh path clear name with
    | .ok clear => searchAll plugins fresh path clear rest
    | .error circle => .error circle
termination_by names => (fresh.length, names.length + 1)

end

/-- A circle of supersession, from a name back to it, if there is one. -/
def circle? (plugins : SectionPlugins) : Option (List SectionName) :=
  match searchAll plugins plugins.keys [] [] plugins.keys with
  | .ok _ => none
  | .error circle => some circle

end SectionPlugins

/-- The section plugins of an engine, free of circles. -/
structure SectionCatalog where
  plugins : SectionPlugins

namespace SectionCatalog

/-- The catalog without plugins. -/
def empty : SectionCatalog := ⟨∅⟩

instance : Inhabited SectionCatalog := ⟨empty⟩

/-- The catalog of some plugins, of which the last of a name stays; or a circle among them. -/
def ofList (plugins : List SectionPlugin) : Except (List SectionName) SectionCatalog :=
  let plugins : SectionPlugins := SortedMap.ofList (plugins.map fun p => (p.name, p))
  match plugins.circle? with
  | some circle => .error circle
  | none => .ok ⟨plugins⟩

/-- The plugin with a name. -/
def get? (c : SectionCatalog) (name : SectionName) : Option SectionPlugin := c.plugins.get? name

/-- The plugin for a section: a declared one, or the trivial one. -/
def pluginFor (c : SectionCatalog) (name : SectionName) : SectionPlugin :=
  (c.get? name).getD (.trivial name)

/-- The plugins that supersede a section, by increasing name. -/
def supersedersOf (c : SectionCatalog) (name : SectionName) : List SectionName :=
  (c.plugins.filter fun _ plugin => plugin.supersedes.contains name).keys

/-- The name under which checks ask for a section's value. -/
def parsedName (c : SectionCatalog) (name : SectionName) : ParsedName :=
  (c.pluginFor name).parsedName

end SectionCatalog

end HostWatch
