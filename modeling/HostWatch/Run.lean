/-
A run on a host, from what its sources have delivered to the result: the
sections are parsed, the services are checked, their results are passed
on, and the inventory is brought up to date.
-/
import HostWatch.Check.Schedule
import HostWatch.HostReport
import HostWatch.Inventory.Plugin

namespace HostWatch

/-- A service's result as it is passed on. -/
structure Submission where
  description : String
  result : ServiceResult
  cacheInfo : Option CacheInfo
  /-- Whether it is not meant to be shown. -/
  pending : Bool

/-- The line that shows a result, unless it is not meant to be shown. -/
def Submission.line? (s : Submission) : Option String :=
  if s.pending then none
  else some s!"{s.result.state.name} {s.description} - {s.result.summary}"

/-- The result of a service as it is passed on. -/
def ServiceOutcome.submission (o : ServiceOutcome) : Submission :=
  { description := o.service.description, result := o.result, cacheInfo := o.cacheInfo,
    pending := !o.submit }

/-- What the runs on all hosts share. -/
structure Engine where
  catalog : SectionCatalog
  checks : CheckRegistry
  inventory : InventoryRegistry
  inventoryParameters : InventoryParameters
  periods : PeriodOracle
  effectiveHost : EffectiveHost
  clusterMode : HostName → String → ClusterMode
  /-- The states that sources without data lead to. -/
  sourceSpec : ExitSpec := {}
  snmpBackend : SnmpBackend := .inline
  /-- Whether failures of plugins are let through. -/
  debug : Bool := false
  /-- The identity of the crash report that follows a number of others. -/
  crashId : Nat → String
  /-- The time of crash reports. -/
  time : String

/-- A run on a host. -/
structure RunRequest where
  plan : CheckPlan
  /-- The states that missing data leads to. -/
  exitSpec : ExitSpec := {}
  inventory : InventoryOptions := {}

/-- What runs leave behind. -/
structure RunState where
  checks : CheckState := {}
  trees : TreeStore := .memory ∅
  /-- The results that have been passed on, one list for each time. -/
  submitted : List (List Submission) := []

namespace Engine

/-- What a host's own agent has delivered last. -/
def lastAgentOutput (fetched : List Fetched) : Option ByteArray :=
  fetched.reverse.findSome? fun (source, raw) =>
    match raw with
    | .ok bytes => if source.sourceType = .host ∧ 0 < bytes.size then some bytes else none
    | .error _ => none

/-- The providers of what some sources have delivered. -/
def providers (engine : Engine) (parsed : List Parsed) : Providers :=
  makeProviders engine.catalog (groupParsed parsed)

/-- What the checks of a run have to go by. -/
def checkEnvironment (engine : Engine) (providers : Providers) (fetched : List Fetched) :
    CheckEnvironment where
  providers := providers
  periods := engine.periods
  effectiveHost := engine.effectiveHost
  clusterMode := engine.clusterMode
  snmpBackend := engine.snmpBackend
  agentOutput := lastAgentOutput fetched
  debug := engine.debug
  crashId := engine.crashId
  time := engine.time

/-- The inventory at the end of a run. It takes place only if the run is about all plugins. -/
def updateInventory (engine : Engine) (request : RunRequest) (providers : Providers)
    (trees : TreeStore) : Except Abort TreeStore :=
  if request.plan.selection.isEverything then
    let topology := request.plan.topology
    let env : InventoryEnvironment :=
      { providers, plugins := engine.inventory, parameters := engine.inventoryParameters,
        debug := engine.debug }
    env.update topology.host (!topology.isCluster && request.inventory.statusData) trees
  else .ok trees

/-- The first part of a run: the services are checked, and their results are passed on. -/
def checkServices (engine : Engine) (request : RunRequest) (fetched : List Fetched)
    (state : RunState) : Except Abort (List ServiceOutcome) × RunState :=
  let env := engine.checkEnvironment (engine.providers (fetched.map parseFetched)) fetched
  match request.plan.check env engine.checks { state.checks with cancelled := false } with
  | (.error abort, checks) => (.error abort, { state with checks })
  | (.ok outcomes, checks) =>
    (.ok outcomes, { state with
      checks
      submitted := state.submitted ++ [outcomes.map (·.submission)] })

/-- The second part of a run: the inventory, and the result of the host. -/
def conclude [PatternLanguage] (engine : Engine) (request : RunRequest)
    (fetched : List Fetched) (outcomes : List ServiceOutcome) (state : RunState) :
    Except Abort HostResult × RunState :=
  let parsed := fetched.map parseFetched
  let providers := engine.providers parsed
  match engine.updateInventory request providers state.trees with
  | .error abort => (.error abort, state)
  | .ok trees =>
    let sources := HostReport.ofSources engine.sourceSpec parsed
    (.ok (HostReport.total sources providers outcomes request.exitSpec), { state with trees })

/-- A run on a host. -/
def run [PatternLanguage] (engine : Engine) (request : RunRequest) (fetched : List Fetched)
    (state : RunState) : Except Abort HostResult × RunState :=
  match engine.checkServices request fetched state with
  | (.error abort, state) => (.error abort, state)
  | (.ok outcomes, state) => engine.conclude request fetched outcomes state

end Engine

end HostWatch
