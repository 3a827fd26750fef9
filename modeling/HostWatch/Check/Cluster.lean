/-
Services of a cluster. A plugin may have a function of its own for
clusters; otherwise its function for hosts runs on the merged sections of
all nodes, or on each node by itself, and one node's results are chosen.
-/
import HostWatch.Check.Plugin

namespace HostWatch

/-- How a service of a cluster is checked. -/
inductive ClusterMode where
  /-- By the plugin's function for clusters. -/
  | native
  /-- On the merged sections of all nodes. -/
  | merge
  /-- On each node; the worst one counts. -/
  | worst
  /-- On each node; the best one counts. -/
  | best
  /-- On each node, of which only one should have results. -/
  | failover
deriving DecidableEq, Repr

namespace ClusterMode

/-- A service for which nothing is said is checked by the plugin's function. -/
instance : Inhabited ClusterMode := ⟨native⟩

/-- All modes. -/
def all : List ClusterMode := [native, merge, worst, best, failover]

/-- The word for a mode. -/
def name : ClusterMode → String
  | native => "native"
  | merge => "merge"
  | worst => "worst"
  | best => "best"
  | failover => "failover"

/-- Reads a mode. -/
def decode : Decoder ClusterMode := Decoder.enumeration all name

end ClusterMode

-- ==================================================== merged sections

/-- Two contents of a section as one: fields and items are joined, otherwise the second stays. -/
def mergeValues : Value → Value → Value
  | .record fields, .record more =>
    .ofFields ((SortedMap.ofList fields).overlay (SortedMap.ofList more))
  | .list items, .list more => .list (items ++ more)
  | _, v => v

/-- A section's content after one more node. -/
def mergeContent : Option Value → Option Value → Option Value
  | known, none => known
  | none, some v => some v
  | some known, some v => some (mergeValues known v)

/-- The sections of some nodes as those of one host, the nodes taken in order. -/
def mergeSections (nodes : List SectionData) : SectionData :=
  nodes.foldl (fun acc sections =>
    sections.entries.foldl (fun acc (name, content) =>
      acc.insert name (mergeContent (acc.get? name).join content)) acc) ∅

-- ==================================================== calls and their traces

/-- A call that has been made. -/
structure Invocation where
  /-- The declared plugin that was called. -/
  plugin : PluginName
  service : CurrentService
  call : AnyCall

/-- What the calls for a service leave behind. -/
structure Invoked where
  ending : Ending
  store : ValueStore
  /-- The calls in order. -/
  calls : List Invocation
  /-- Whether the run of all checks is to be broken off. -/
  cancels : Bool

/-- A finished call: its values take the place of what was stored under `key`. -/
private def Invoked.ofRun (store : ValueStore) (key : NamespaceKey) (invocation : Invocation)
    (run : CheckRun) : Invoked where
  ending := run.ending
  store := store.commit key run.values
  calls := [invocation]
  cancels := run.cancels

namespace CheckPlugin

/-- Calls the function for hosts with the values under `key`. -/
def invoke (p : CheckPlugin) (call : CheckCall) (service : CurrentService) (key : NamespaceKey)
    (store : ValueStore) : Invoked :=
  .ofRun store key ⟨p.declaredAs, service, .host call⟩
    (p.function call service (store.workingCopy key))

/-- What is said when a plugin has no function for clusters. -/
def noClusterFunction (name : PluginName) : String :=
  s!"Plugin {name} does not support native cluster mode, " ++
    "use one of 'merge', 'worst', 'best' or 'failover'"

/-- Calls the function for clusters, if there is one. -/
def invokeNative (p : CheckPlugin) (call : ClusterCall) (service : CurrentService)
    (store : ValueStore) : Invoked :=
  let key := service.namespaceKey
  let values := store.workingCopy key
  match p.clusterFunction with
  | some function =>
    .ofRun store key ⟨p.declaredAs, service, .cluster call⟩ (function call service values)
  | none =>
    { ending := .failed (noClusterFunction p.name)
      store := store.commit key values
      calls := []
      cancels := false }

end CheckPlugin

-- ==================================================== node by node

/-- The results of a node. -/
structure NodeResult where
  node : HostName
  outputs : List CheckOutput
  state : State
deriving DecidableEq

/-- How far the nodes of a cluster have been checked. -/
structure NodeRuns where
  results : List NodeResult := []
  /-- The message of the first node whose results are to be ignored. -/
  ignored : Option (Option String) := none
  /-- The ending that stopped the nodes after it from being checked. -/
  stopped : Option Ending := none
  store : ValueStore
  calls : List Invocation := []
  cancels : Bool := false

/-- Checks one node, with values of its own. A node without sub-results does not count. -/
def NodeRuns.add (plugin : CheckPlugin) (call : ClusterCall) (service : CurrentService)
    (runs : NodeRuns) (node : HostName) (sections : SectionData) : NodeRuns :=
  let nodeCall : CheckCall := { item := call.item, params := call.params, sections }
  let key := service.namespaceKey.withNode node
  let invoked := plugin.invoke nodeCall service key runs.store
  let runs := { runs with
    store := invoked.store
    calls := runs.calls ++ invoked.calls
    cancels := runs.cancels || invoked.cancels }
  match invoked.ending with
  | .yielded outputs =>
    match CheckOutput.worstState? outputs with
    | some state => { runs with results := runs.results ++ [⟨node, outputs, state⟩] }
    | none => runs
  | .ignored message => { runs with ignored := runs.ignored.or (some message) }
  | ending => { runs with stopped := some ending }

/-- Checks the nodes that have data, up to the first one that ends in an error. -/
def NodeRuns.addAll (plugin : CheckPlugin) (call : ClusterCall) (service : CurrentService)
    (runs : NodeRuns) : List (HostName × SectionData) → NodeRuns
  | [] => runs
  | (node, sections) :: rest =>
    if !sections.hasContent then addAll plugin call service runs rest
    else
      let runs := runs.add plugin call service node sections
      if runs.stopped.isSome then runs else addAll plugin call service runs rest

/-- The first node whose state is at an extreme, and the other nodes in order. -/
def selectNode (better : State → State → Bool) :
    List NodeResult → Option (NodeResult × List NodeResult)
  | [] => none
  | n :: rest =>
    match selectNode better rest with
    | none => some (n, [])
    | some (m, others) => if better m.state n.state then some (m, n :: others) else some (n, rest)

/-- The outputs of the chosen node; its first summary names the node. -/
def labelOutputs (node : HostName) : List CheckOutput → List CheckOutput
  | [] => []
  | .result r :: rest =>
    if r.summary != "" then
      .result { r with summary := s!"[{node}]: {r.summary}" } :: rest
    else .result r :: labelOutputs node rest
  | .metric m :: rest => .metric m :: labelOutputs node rest

/-- What is said of a node that was not chosen. -/
def mentionNode (mode : ClusterMode) (other : NodeResult) : CheckOutput :=
  match mode with
  | .failover =>
    .ofSummary .warn s!"[{other.node}] yields results as well - failover service"
  | _ =>
    let summary := (CheckOutput.firstSummary? other.outputs).getD "no summary"
    .notice .ok s!"[{other.node}]: {summary}"

/-- Whether the first of two states is to be preferred to an equally good candidate before it. -/
def preferred (mode : ClusterMode) (a b : State) : Bool :=
  match mode with
  | .best => a.rank < b.rank
  | _ => b.rank < a.rank

/-- The outputs of a cluster: those of the chosen node, and a remark on each other node. -/
def clusterOutputs (mode : ClusterMode) (results : List NodeResult) : List CheckOutput :=
  match selectNode (preferred mode) results with
  | none => []
  | some (chosen, others) =>
    labelOutputs chosen.node chosen.outputs ++ others.map (mentionNode mode)

/-- How the checks of the nodes end as a whole. -/
def NodeRuns.ending (mode : ClusterMode) (runs : NodeRuns) : Ending :=
  match runs.stopped with
  | some ending => ending
  | none =>
    match runs.results, runs.ignored with
    | [], some message => .ignored message
    | results, _ => .yielded (clusterOutputs mode results)

namespace CheckPlugin

/-- Checks a service of a cluster. -/
def invokeCluster (p : CheckPlugin) (mode : ClusterMode) (call : ClusterCall)
    (service : CurrentService) (store : ValueStore) : Invoked :=
  match mode with
  | .native => p.invokeNative call service store
  | .merge =>
    p.invoke
      { item := call.item, params := call.params, sections := mergeSections call.nodes.values }
      service service.namespaceKey store
  | .worst | .best | .failover =>
    let key := service.namespaceKey
    let values := store.workingCopy key
    let runs := NodeRuns.addAll p call service { store := store } call.nodes.entries
    { ending := runs.ending mode
      store := runs.store.commit key values
      calls := runs.calls
      cancels := runs.cancels }

end CheckPlugin

end HostWatch
