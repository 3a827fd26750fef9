/-
Check plugins and their registry. A management plugin that is not declared
is served by the plugin that it goes with.
-/
import HostWatch.Check.Call

namespace HostWatch

/-- A check plugin. -/
structure CheckPlugin where
  name : PluginName
  /-- The name of the declaration that it comes from. -/
  declaredAs : PluginName := name
  /-- The sections that it asks for. -/
  sections : List ParsedName
  function : CheckFunction
  clusterFunction : Option ClusterFunction := none
  /-- What its parameters are if nothing else is configured; a plugin without has none at all. -/
  defaults : Option Value := none
  ruleset : Option String := none

/-- The declared check plugins. -/
structure CheckRegistry where
  plugins : SortedMap PluginName CheckPlugin

namespace CheckRegistry

/-- The registry of some plugins, of which the last of a name stays. -/
def ofList (plugins : List CheckPlugin) : CheckRegistry :=
  ⟨.ofList (plugins.map fun p => (p.name, p))⟩

/-- The plugin that serves a name. -/
def find? (r : CheckRegistry) (name : PluginName) : Option CheckPlugin :=
  match r.plugins.get? name with
  | some plugin => some plugin
  | none =>
    if PluginName.isManagement name then
      (r.plugins.get? (PluginName.toBasic name)).map fun plugin => { plugin with name := name }
    else none

/-- The declared names in order. -/
def names (r : CheckRegistry) : List PluginName := r.plugins.keys

/-- The number of declared plugins. -/
def size (r : CheckRegistry) : Nat := r.plugins.size

/-- Whether no plugin is declared. -/
def isEmpty (r : CheckRegistry) : Bool := r.plugins.isEmpty

end CheckRegistry

end HostWatch
