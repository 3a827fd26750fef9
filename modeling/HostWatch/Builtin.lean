/-
The plugins that come with the program.
-/
import HostWatch.Builtin.Load
import HostWatch.Builtin.Memory
import HostWatch.Builtin.Uptime

namespace HostWatch.Builtin

/-- The section plugins. -/
def sectionPlugins : List SectionPlugin :=
  [Uptime.sectionPlugin, Memory.sectionPlugin, Load.sectionPlugin]

/-- The check plugins. -/
def checks : CheckRegistry :=
  .ofList [Uptime.checkPlugin, Memory.checkPlugin, Load.checkPlugin]

/-- The inventory plugins. -/
def inventory : InventoryRegistry :=
  .ofList [(Memory.inventoryPlugin.name, Memory.inventoryPlugin)]

end HostWatch.Builtin
