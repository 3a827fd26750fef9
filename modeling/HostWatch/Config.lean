/-
The configuration of the program: general settings, time periods, and for
each host its sources and services. Whatever is left out has a default.
-/
import HostWatch.Check.Cluster
import HostWatch.Check.Crash
import HostWatch.ExitSpec
import HostWatch.Path
import HostWatch.Service

namespace HostWatch

/-- General settings. -/
structure Settings where
  /-- Whether failures of plugins are let through. -/
  debug : Bool := false
  /-- The file for stored values; without one they last as long as the program runs. -/
  valueStorePath : Option Path := none
  /-- The directory for crash reports; without one they are not written. -/
  crashDirectory : Option Path := none
  snmpBackend : SnmpBackend := .inline
deriving DecidableEq, Repr

namespace Settings

/-- Reads settings. -/
def decode (dialect : Dialect) : Decoder Settings := fun d => do
  let slot ← Slot.ofDocument? dialect ["debug", "value_store_path", "crash_dir", "snmp_backend"] d
  let path := Decoder.text.optional
  let debug ← (slot "debug").withDefault false Decoder.bool
  let valueStorePath ← (slot "value_store_path").withDefault none path
  let crashDirectory ← (slot "crash_dir").withDefault none path
  let snmpBackend ← (slot "snmp_backend").withDefault .inline SnmpBackend.decode
  pure { debug, valueStorePath, crashDirectory, snmpBackend }

/-- Settings as a value. -/
def toValue (s : Settings) : Value :=
  .ofPairs [("debug", .bool s.debug), ("value_store_path", .ofText? s.valueStorePath),
    ("crash_dir", .ofText? s.crashDirectory), ("snmp_backend", .text s.snmpBackend.name)]

end Settings

/-- Where the data of a source comes from. -/
inductive SourceKind where
  /-- A file with the output of an agent. -/
  | file (path : Path)
  /-- A command whose standard output is the output of an agent. -/
  | program (command : String)
deriving DecidableEq, Repr

namespace SourceKind

/-- How a source of this kind is read. -/
def fetcher : SourceKind → FetcherType
  | file _ => .file
  | program _ => .program

/-- The kinds, by name and by number: the field that describes more, and what it makes. -/
private def decodeKind : Decoder (String × (String → SourceKind))
  | .text "file" | .int 0 | .plain "0" => some ("path", file)
  | .text "program" | .int 1 | .plain "1" => some ("command", program)
  | _ => none

/-- The kind that two fields of a source describe, each of which is there once. -/
def decode : Decoder SourceKind := fun d => do
  let (name, make) ← decodeKind (← d.field? "kind")
  if d.repeats ["kind", name] then none
  else
    match ← (← d.field? name).value? with
    | .text s => some (make s)
    | _ => none

/-- The fields that describe a kind. -/
def fields : SourceKind → List (String × Value)
  | file path => [("kind", .text "file"), ("path", .text path)]
  | program command => [("kind", .text "program"), ("command", .text command)]

end SourceKind

/-- A source of a host. -/
structure SourceConfig where
  ident : String
  /-- The host that the data is of, if it is another one: a node of a cluster. -/
  host : Option HostName := none
  /-- Whether the data is that of the management board. -/
  management : Bool := false
  kind : SourceKind
deriving DecidableEq, Repr

namespace SourceConfig

/-- The fields that are there for sources of all kinds. -/
private def fieldNames : List String := ["ident", "host", "management"]

/-- The fields beside those. -/
private def otherFields : Document → List Document
  | .record fields => (fields.filter fun field => !fieldNames.contains field.1).map (·.2)
  | _ => []

/--
Reads a source, which has no list form. All that the source has beside its fields has a value.
-/
def decode (dialect : Dialect) : Decoder SourceConfig
  | .record fields => do
    let doc := Document.record fields
    let slot ← Slot.ofDocument? dialect fieldNames doc
    let ident ← (slot "ident").required Decoder.text
    let host ← (slot "host").withDefault none (Decoder.optional Decoder.text)
    let management ← (slot "management").withDefault false Decoder.bool
    let kind ← SourceKind.decode doc
    if (otherFields doc).all fun d => d.value?.isSome then
      some { ident, host, management, kind }
    else none
  | _ => none

/-- A source as a value. -/
def toValue (s : SourceConfig) : Value :=
  .ofPairs ([("ident", .text s.ident), ("host", .ofText? s.host),
    ("management", .bool s.management)] ++ s.kind.fields)

end SourceConfig

/-- The configuration of a host. -/
structure HostConfig where
  /-- The nodes of a cluster; a host of its own has none. -/
  nodes : List HostName := []
  sources : List SourceConfig := []
  services : List Service := []
  /-- How the services of a cluster are checked, by description. -/
  clusterModes : SortedMap String ClusterMode := ∅
  /-- The hosts that services of this one belong to, by description. -/
  serviceOwners : SortedMap String HostName := ∅
  /-- Whether status data of the host is to be stored. -/
  statusInventory : Bool := false

namespace HostConfig

instance : Inhabited HostConfig := ⟨{}⟩

/-- Whether the host is a cluster. -/
def isCluster (h : HostConfig) : Bool := !h.nodes.isEmpty

/-- Reads the configuration of a host. -/
def decode (dialect : Dialect) : Decoder HostConfig := fun d => do
  let slot ← Slot.ofDocument? dialect
    ["nodes", "sources", "services", "cluster_modes", "service_owners", "status_data_inventory"] d
  let text := Decoder.text
  let nodes ← (slot "nodes").withDefault [] (Decoder.list text)
  let sources ← (slot "sources").withDefault [] (Decoder.list (SourceConfig.decode dialect))
  let services ← (slot "services").withDefault [] (Decoder.list (Service.decode dialect))
  let clusterModes ← (slot "cluster_modes").withDefault ∅ (Decoder.map ClusterMode.decode)
  let serviceOwners ← (slot "service_owners").withDefault ∅ (Decoder.map text)
  let statusInventory ← (slot "status_data_inventory").withDefault false Decoder.bool
  pure { nodes, sources, services, clusterModes, serviceOwners, statusInventory }

/-- The configuration of a host as a value. -/
def toValue (h : HostConfig) : Value :=
  .ofPairs [("nodes", .ofTexts h.nodes), ("sources", .list (h.sources.map (·.toValue))),
    ("services", .list (h.services.map (·.toValue))),
    ("cluster_modes", .ofFields (h.clusterModes.map fun _ mode => .text mode.name)),
    ("service_owners", .ofFields (h.serviceOwners.map fun _ host => .text host)),
    ("status_data_inventory", .bool h.statusInventory)]

end HostConfig

/-- The configuration of the program. -/
structure Config where
  settings : Settings := {}
  exitSpec : ExitSpec := {}
  periods : SortedMap PeriodName PeriodSpec := ∅
  /-- The directory for status data; without one it lasts as long as the program runs. -/
  statusDirectory : Option Path := none
  /-- After how many seconds the run on a host is cancelled. -/
  hostTimeout : Option Nat := none
  hosts : SortedMap HostName HostConfig := ∅

namespace Config

instance : Inhabited Config := ⟨{}⟩

/-- Reads a configuration. -/
def decode (dialect : Dialect) : Decoder Config := fun d => do
  let slot ← Slot.ofDocument? dialect ["settings", "exit_spec", "timeperiods", "status_data_dir",
    "host_timeout_secs", "hosts"] d
  let settings ← (slot "settings").withDefault {} (Settings.decode dialect)
  let exitSpec ← (slot "exit_spec").withDefault {} (ExitSpec.decode dialect)
  let periods ← (slot "timeperiods").withDefault ∅ (Decoder.map (PeriodSpec.decode dialect))
  let statusDirectory ← (slot "status_data_dir").withDefault none
    Decoder.text.optional
  let hostTimeout ← (slot "host_timeout_secs").withDefault none
    (Decoder.nat Decimal.maxUnsigned64).optional
  let hosts ← (slot "hosts").withDefault ∅ (Decoder.map (HostConfig.decode dialect))
  pure { settings, exitSpec, periods, statusDirectory, hostTimeout, hosts }

/-- A number or `null`. -/
private def optionalNat : Option Nat → Value
  | some n => .int n
  | none => .null

/-- A configuration as a value. -/
def toValue (c : Config) : Value :=
  .ofPairs [("settings", c.settings.toValue), ("exit_spec", c.exitSpec.toValue),
    ("timeperiods", .ofFields (c.periods.map fun _ spec => spec.toValue)),
    ("status_data_dir", .ofText? c.statusDirectory),
    ("host_timeout_secs", optionalNat c.hostTimeout),
    ("hosts", .ofFields (c.hosts.map fun _ host => host.toValue))]

end Config

end HostWatch
