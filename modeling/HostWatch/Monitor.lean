/-
The monitor: runs on the configured hosts that share the stored values,
the crash reports, the status data and the disk.
-/
import HostWatch.Builtin
import HostWatch.Fetch.Read
import HostWatch.Pattern.Reader
import HostWatch.Run
import HostWatch.ValueStore.Stored

namespace HostWatch

-- ==================================================== who owns what

namespace Config

/-- The names of the configured hosts. -/
def hostNames (c : Config) : List HostName := c.hosts.keys

/-- Whether a host is a cluster with a node and a service. -/
private def hasNodeService (node : HostName) (description : String) (host : HostConfig) : Bool :=
  host.nodes.contains node && host.services.any fun s => s.description == description

/--
The host to which a node's service belongs: the one that the node's configuration names, or else
the first cluster that has the node and the service, or else the node itself.
-/
def effectiveHost (c : Config) : EffectiveHost := fun node description =>
  match (c.hosts.get? node).bind fun host => host.serviceOwners.get? description with
  | some owner => owner
  | none =>
    match c.hosts.entries.find? fun (_, host) => hasNodeService node description host with
    | some (cluster, _) => cluster
    | none => node

/-- How a service of a cluster is checked. -/
def clusterMode (c : Config) (host : HostName) (description : String) : ClusterMode :=
  ((c.hosts.get? host).bind fun h => h.clusterModes.get? description).getD .native

end Config

-- ==================================================== the monitor

/-- What the monitor is given from outside. -/
structure Surroundings where
  /-- The moment at which the checks take place. -/
  now : Instant
  /-- The same moment as crash reports show it. -/
  time : String
  /-- The identity of the crash report that follows a number of others. -/
  crashId : Nat → String
  /-- What programs do. -/
  programs : Disk → Programs

/-- The monitor between two runs. -/
structure Monitor where
  config : Config
  engine : Engine
  programs : Disk → Programs
  runs : RunState
  disk : Disk

/-- What a run shows of a host. -/
structure HostRun where
  /-- The result, or what can be said about a plugin that broke off and was let through. -/
  result : Except String HostResult
  /-- The results of the services that have been passed on. -/
  submitted : List Submission

namespace HostRun

/-- The lines that show the results of the services. -/
def lines (r : HostRun) : List String := r.submitted.filterMap Submission.line?

end HostRun

namespace Monitor

/-- The stored values to start with. -/
private def initialValues (config : Config) (disk : Disk) : Except EngineError ValueStore :=
  match config.settings.valueStorePath with
  | some path => ValueStore.load disk path
  | none => .ok ∅

/-- The status data to start with. -/
private def initialTrees (config : Config) (disk : Disk) : TreeStore :=
  match config.statusDirectory with
  | some directory => .directory directory disk
  | none => .memory ∅

/-- The monitor at its start, with the plugins that come with the program. -/
def start (config : Config) (around : Surroundings) (disk : Disk) :
    Except EngineError Monitor := do
  let catalog ← (SectionCatalog.ofList Builtin.sectionPlugins).mapError .supersessionCycle
  let periods ← (Periods.ofSpecs config.periods).mapError fun e => .config (.period e)
  let values ← initialValues config disk
  let engine : Engine :=
    { catalog
      checks := Builtin.checks
      inventory := Builtin.inventory
      inventoryParameters := fun _ _ => ∅
      periods := periods.isActive around.now
      effectiveHost := config.effectiveHost
      clusterMode := config.clusterMode
      sourceSpec := config.exitSpec
      snmpBackend := config.settings.snmpBackend
      debug := config.settings.debug
      crashId := around.crashId
      time := around.time }
  pure {
    config
    engine
    programs := around.programs
    runs := { checks := { store := values }, trees := initialTrees config disk }
    disk }

/-- The run on a host. -/
def request (m : Monitor) (name : HostName) (host : HostConfig) (cancelled : Bool) :
    RunRequest where
  plan :=
    { topology := { host := name, isCluster := host.isCluster, nodes := host.nodes }
      services := host.services
      cancelledAt := fun _ => cancelled }
  exitSpec := m.config.exitSpec
  inventory := { statusData := host.statusInventory }

/-- What the sources of a host deliver. -/
def fetch (m : Monitor) (name : HostName) (host : HostConfig) : List Fetched :=
  let fetcher : Fetcher := { host := name, configs := host.sources }
  fetcher.fetchAll (SourceKind.read m.disk (m.programs m.disk)) fetcher.sources

/-- Writes the crash reports after the first `known` ones, if there is a directory for them. -/
def fileCrashes (m : Monitor) (known : Nat) : Monitor :=
  match m.config.settings.crashDirectory with
  | none => m
  | some directory =>
    let added := m.runs.checks.crashes.drop known
    { m with disk := added.foldl (fun d r => r.file directory d) m.disk }

/-- The result of a host whose run was ended before its time. -/
def abortResult (spec : ExitSpec) : Abort → Except String HostResult
  | .error .timeout => .ok { state := spec.timeout, summary := EngineError.timeout.message }
  | .error e => .ok { state := spec.exception, summary := e.message }
  | .crash message => .error message

/-- The inventory and the result of a host after its services have been checked. -/
private def concludeRun (m : Monitor) (request : RunRequest) (fetched : List Fetched)
    (outcomes : List ServiceOutcome) : Except String HostResult × Monitor :=
  let (result, runs) := m.engine.conclude request fetched outcomes
    { m.runs with trees := m.runs.trees.withDisk m.disk }
  let result := match result with
    | .ok r => .ok r
    | .error abort => abortResult request.exitSpec abort
  (result, { m with runs, disk := runs.trees.disk?.getD m.disk })

/-- A run on a host that is configured. -/
def checkConfigured (m : Monitor) (name : HostName) (host : HostConfig) (cancelled : Bool) :
    HostRun × Monitor :=
  let request := m.request name host cancelled
  let fetched := m.fetch name host
  let (outcomes, runs) := m.engine.checkServices request fetched { m.runs with submitted := [] }
  let checked := { m with runs }.fileCrashes m.runs.checks.crashes.length
  match outcomes with
  | .error abort => (⟨abortResult request.exitSpec abort, []⟩, checked)
  | .ok outcomes =>
    let (result, concluded) := checked.concludeRun request fetched outcomes
    (⟨result, runs.submitted.flatten⟩, concluded)

/-- A run on a host. -/
def check (m : Monitor) (name : HostName) (cancelled : Bool) : HostRun × Monitor :=
  match m.config.hosts.get? name with
  | none => (⟨.ok { state := .unknown, summary := s!"Unknown host {name}" }, []⟩, m)
  | some host => m.checkConfigured name host cancelled

/-- Keeps the stored values for the next time, as far as that is possible. -/
def finish (m : Monitor) : Monitor :=
  match m.config.settings.valueStorePath with
  | none => m
  | some path => { m with disk := (m.runs.checks.store.save m.disk path).2 }

/-- The number of crash reports. -/
def crashCount (m : Monitor) : Nat := m.runs.checks.crashes.length

/-- The exit code after some results: the worst of their states. -/
def exitCode (results : List HostResult) : Nat := (State.worstOrOk (results.map (·.state))).code

end Monitor

end HostWatch
