/-
Rehearsals: runs with made-up plugins whose answers can be changed between
two runs, and with everything that runs leave behind kept for inspection.
-/
import HostWatch.Pattern.Reader
import HostWatch.Run
import HostWatch.Text.Quoted

namespace HostWatch

/-- A check plugin that always ends in the same way. -/
structure Stub where
  name : PluginName
  sections : List ParsedName := []
  ending : Ending := .yielded [.ofSummary .ok "stub ok"]
  /-- Whether it has a function of its own for clusters. -/
  hasClusterFunction : Bool := false
  defaults : Option Value := none

/-- The check plugin that a stub stands for. -/
def Stub.plugin (s : Stub) : CheckPlugin where
  name := s.name
  sections := s.sections
  function _ _ values := { ending := s.ending, values }
  clusterFunction :=
    if s.hasClusterFunction then some fun _ _ values => { ending := s.ending, values } else none
  defaults := s.defaults

/-- A rehearsal: what the runs go by, and what they have left behind. -/
structure Rehearsal where
  sections : List SectionPlugin := []
  plugins : List CheckPlugin := []
  stubs : List Stub := []
  inventory : InventoryRegistry := ∅
  exitSpec : ExitSpec := {}
  inventoryOptions : InventoryOptions := {}
  selection : PluginSelection := .everything
  debug : Bool := false
  /-- The time periods that are not active. -/
  inactive : List PeriodName := []
  /-- How services of clusters are checked, by description. -/
  clusterModes : SortedMap String ClusterMode := ∅
  effectiveHost : EffectiveHost := fun node _ => node
  /-- The identity of the crash report that follows a number of others. -/
  crashId : Nat → String
  cancelled : Bool := false
  state : RunState := {}

namespace Rehearsal

/-- What the runs go by, with the section plugins of a catalog. -/
def engine (r : Rehearsal) (catalog : SectionCatalog) : Engine where
  catalog := catalog
  checks := .ofList (r.plugins ++ r.stubs.map Stub.plugin)
  inventory := r.inventory
  inventoryParameters := fun _ _ => ∅
  periods := fun period => !r.inactive.contains period
  effectiveHost := r.effectiveHost
  clusterMode := fun _ description => (r.clusterModes.get? description).getD .native
  sourceSpec := r.exitSpec
  debug := r.debug
  crashId := r.crashId
  time := ""

/-- The run on some services of a host. -/
def request (r : Rehearsal) (topology : Topology) (services : List Service) : RunRequest where
  plan :=
    { topology, services, selection := r.selection, cancelledAt := fun _ => r.cancelled }
  exitSpec := r.exitSpec
  inventory := r.inventoryOptions

/-- Checks some services of a host. -/
def run (r : Rehearsal) (topology : Topology) (services : List Service)
    (fetched : List Fetched) : Except Abort HostResult × Rehearsal :=
  match SectionCatalog.ofList r.sections with
  | .error names => (.error (.error (.supersessionCycle names)), r)
  | .ok catalog =>
    let (result, state) :=
      (r.engine catalog).run (r.request topology services) fetched r.state
    (result, { r with state })

/-- Cancels all runs that are still to come. -/
def cancel (r : Rehearsal) : Rehearsal := { r with cancelled := true }

/-- The results that have been passed on since they were last cleared. -/
def submitted (r : Rehearsal) : List Submission := r.state.submitted.flatten

/-- Forgets the results that have been passed on. -/
def clear (r : Rehearsal) : Rehearsal := { r with state := { r.state with submitted := [] } }

/-- What is said when a service has no result. -/
def notSubmitted (description : String) : String :=
  s!"service {Text.quote description} was not submitted"

/-- The result of a service that has been passed on. -/
def submission? (r : Rehearsal) (description : String) : Option Submission :=
  r.submitted.find? fun s => s.description == description

/-- Whether there is a stub of a name. -/
def hasStub (r : Rehearsal) (name : PluginName) : Bool := r.stubs.any fun s => s.name == name

/-- Changes how a stub ends from now on. -/
def setEnding (r : Rehearsal) (name : PluginName) (ending : Ending) : Rehearsal :=
  { r with stubs := r.stubs.map fun s => if s.name == name then { s with ending } else s }

/-- Whether a call was that of a stub. -/
def isStubCall (r : Rehearsal) (i : Invocation) : Bool := r.hasStub i.plugin

end Rehearsal

end HostWatch
