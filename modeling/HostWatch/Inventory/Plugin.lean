/-
Inventory plugins, and the step at the end of a run that turns what they
find into the status data of a host and stores it.
-/
import HostWatch.Check.Data
import HostWatch.Error
import HostWatch.Value.Writer

namespace HostWatch

/-- The arguments of an inventory function. -/
structure InventoryCall where
  sections : SectionData
  /-- The parameters, for plugins that have a ruleset. -/
  params : Option Parameters

/-- How an inventory function ends. -/
inductive InventoryEnding where
  | found (items : List InventoryItem)
  /-- It gives up with a message. -/
  | failed (message : String)
  /-- It breaks off; the message is what can be said about it. -/
  | crashed (message : String)

/-- An inventory plugin. -/
structure InventoryPlugin where
  name : String
  /-- The sections that it asks for. -/
  sections : List ParsedName
  function : InventoryCall → InventoryEnding
  ruleset : Option String := none

/-- The declared inventory plugins. -/
abbrev InventoryRegistry := SortedMap String InventoryPlugin

/-- The parameters of an inventory plugin on a host. -/
abbrev InventoryParameters := HostName → InventoryPlugin → Parameters

/-- Where status data is kept. -/
inductive TreeStore where
  | memory (trees : SortedMap HostName StatusTree)
  /-- A file for each host in a directory of a disk. -/
  | directory (path : Path) (disk : Disk)

namespace TreeStore

/-- The path of a host's file. -/
def fileOf (directory : Path) (host : HostName) : Path :=
  Path.join directory (host ++ ".json")

/-- Stores the status data of a host. -/
def save (s : TreeStore) (host : HostName) (tree : StatusTree) : Except DiskError TreeStore :=
  match s with
  | memory trees => .ok (memory (trees.insert host tree))
  | directory path disk => do
    let disk ← disk.makeDirectories path
    let disk ← disk.write (fileOf path host) tree.toValue.pretty.toUTF8
    pure (directory path disk)

/-- Removes the status data of a host, if there is any. -/
def remove (s : TreeStore) (host : HostName) : Except DiskError TreeStore :=
  match s with
  | memory trees => .ok (memory (trees.erase host))
  | directory path disk =>
    match disk.remove (fileOf path host) with
    | .ok disk => .ok (directory path disk)
    | .error .notFound => .ok s
    | .error e => .error e

/-- The status data of a host in memory. -/
def get? (s : TreeStore) (host : HostName) : Option StatusTree :=
  match s with
  | memory trees => trees.get? host
  | directory _ _ => none

/-- The disk that status data is kept on. -/
def disk? : TreeStore → Option Disk
  | memory _ => none
  | directory _ disk => some disk

/-- The store after a change of the disk that it may be on. -/
def withDisk (s : TreeStore) (disk : Disk) : TreeStore :=
  match s with
  | memory trees => memory trees
  | directory path _ => directory path disk

end TreeStore

/-- What is wanted of the inventory of a host. -/
structure InventoryOptions where
  /-- Whether status data is to be stored. -/
  statusData : Bool := false
deriving DecidableEq, Repr

namespace InventoryOptions

/-- Reads what is wanted. -/
def decode : Decoder InventoryOptions := fun d => do
  let slot ← Slot.ofDocument? .data ["status_data_inventory"] d
  let statusData ← (slot "status_data_inventory").withDefault false Decoder.bool
  pure { statusData }

/-- What is wanted, as a value. -/
def toValue (o : InventoryOptions) : Value :=
  .ofPairs [("status_data_inventory", .bool o.statusData)]

end InventoryOptions

/-- What the inventory of a host goes by. -/
structure InventoryEnvironment where
  providers : Providers
  plugins : InventoryRegistry
  parameters : InventoryParameters
  /-- Whether failures of plugins are let through. -/
  debug : Bool

namespace InventoryEnvironment

/-- The items that a plugin finds in one kind of source; none, if there is no data for it. -/
def itemsOf (env : InventoryEnvironment) (host : HostName) (plugin : InventoryPlugin)
    (sourceType : SourceType) : Except Abort (List InventoryItem) :=
  match Providers.collect? env.providers plugin.sections ⟨host, sourceType⟩ with
  | none => .ok []
  | some (sections, _) =>
    let params := plugin.ruleset.map fun _ => env.parameters host plugin
    match plugin.function { sections, params } with
    | .found items => .ok items
    | .failed message =>
      if env.debug then .error (.error (.pluginCrash plugin.name message)) else .ok []
    | .crashed message => if env.debug then .error (.crash message) else .ok []

/-- The items of all plugins, by name, and for each the host before its management board. -/
def items (env : InventoryEnvironment) (host : HostName) :
    Except Abort (List InventoryItem) := do
  let found ← env.plugins.values.mapM fun plugin => do
    let ofHost ← env.itemsOf host plugin .host
    let ofManagement ← env.itemsOf host plugin .management
    pure (ofHost ++ ofManagement)
  pure found.flatten

/-- The status data of a host. -/
def statusTree (env : InventoryEnvironment) (host : HostName) : Except Abort StatusTree := do
  let items ← env.items host
  match StatusTree.ofItems items with
  | .ok tree => .ok tree
  | .error conflict => .error (.error (.mismatch conflict))

/-- A failure of the disk, as what ends a run. -/
private def storing (outcome : Except DiskError TreeStore) : Except Abort TreeStore :=
  outcome.mapError fun e => .error (.storage e)

/--
Brings the stored status data of a host up to date. A host for which none is wanted has none; one
for which none is found keeps what it has.
-/
def update (env : InventoryEnvironment) (host : HostName) (wanted : Bool) (store : TreeStore) :
    Except Abort TreeStore :=
  if !wanted then storing (store.remove host)
  else do
    let tree ← env.statusTree host
    if tree.isEmpty then pure store else storing (store.save host tree)

end InventoryEnvironment

end HostWatch
