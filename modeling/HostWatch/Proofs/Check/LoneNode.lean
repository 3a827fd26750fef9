/-
A cluster of which one node has data, next to that node as a host.

The two come to a result in different ways: the host's sections go to the
check function as they are, those of the cluster are merged or handed out
node by node, and what the nodes yield is chosen from and labelled. With one
node that has data (`OnlyNode`) all of this folds up. The data of the
cluster is that of the node (`dataFor_of_onlyNode`), merging leaves it as it
is (`mergeSections_singleton`), and only one kind of ending changes on its
way through the cluster: outputs get the name of the node, or come to
nothing if there is no sub-result among them (`Ending.ofNode`).
`invokeCluster_lone` says so for all modes at once; everything after it
compares two endings.

The arguments of the call are the same for every check function. That it
ends in the same way takes one that looks at nothing else (`IsPortable`):
the values of the service are kept under another key on the cluster, and
the service that the function is told about is a service of the cluster. A
function that names the host of its service gives it away
(`naming_host_shows_cluster`).
-/
import HostWatch.Proofs.Check.Containment
import HostWatch.Proofs.Check.MergedSections
import HostWatch.Proofs.Check.NodeChoice
import HostWatch.Proofs.Check.ServiceData

namespace HostWatch

-- ==================================================== merged sections

/-- The merged sections of one node are its sections. -/
theorem mergeSections_singleton (sections : SectionData) :
    mergeSections [sections] = sections := by
  refine SortedMap.ext_get? fun name => ?_
  show (mergeNode ∅ sections).get? name = sections.get? name
  rw [get?_mergeNode]
  cases sections.get? name with
  | none => rfl
  | some content => cases content <;> rfl

-- ==================================================== one ending

/-- What a cluster that is checked node by node makes of the ending of the
only call: outputs are labelled with the node, and without a sub-result
there are none. -/
def Ending.ofNode (node : HostName) : Ending → Ending
  | .yielded outputs =>
    if (CheckOutput.results outputs).isEmpty then .yielded []
    else .yielded (labelOutputs node outputs)
  | ending => ending

/-- What a cluster makes of the ending of the only call. -/
def ClusterMode.handOn (mode : ClusterMode) (node : HostName)
    (ending : Ending) : Ending :=
  if mode.perNode then ending.ofNode node else ending

/-- Only outputs change when an ending is handed on. -/
theorem ClusterMode.handOn_eq {mode : ClusterMode} {node : HostName}
    {ending : Ending} (h : ∀ outputs, ending ≠ .yielded outputs) :
    mode.handOn node ending = ending := by
  unfold handOn Ending.ofNode
  cases ending with
  | yielded outputs => exact absurd rfl (h outputs)
  | ignored message | timedOut | failed message | crashed message =>
      exact ite_self _

/-- Outputs without a sub-result come to nothing when they are handed on node
by node. -/
theorem ClusterMode.handOn_of_no_results {mode : ClusterMode}
    {node : HostName} {outputs : List CheckOutput} (hper : mode.perNode = true)
    (h : CheckOutput.results outputs = []) :
    mode.handOn node (.yielded outputs) = .yielded [] := by
  unfold handOn Ending.ofNode
  rw [if_pos hper]
  simp only [h, List.isEmpty_nil, if_true]

/-- Outputs with sub-results are labelled when they are handed on node by
node. -/
theorem ClusterMode.handOn_of_results {mode : ClusterMode} {node : HostName}
    {outputs : List CheckOutput} (hper : mode.perNode = true)
    (h : CheckOutput.results outputs ≠ []) :
    mode.handOn node (.yielded outputs)
      = .yielded (labelOutputs node outputs) := by
  unfold handOn Ending.ofNode
  rw [if_pos hper]
  simp only [List.isEmpty_iff, if_neg h]

/-- The loop over one node ends as the call on it does, labelled. -/
theorem NodeRuns.ending_of_lone (mode : ClusterMode) {plugin : CheckPlugin}
    {call : ClusterCall} {service : CurrentService} {store : ValueStore}
    {run : HostName × SectionData → CheckRun}
    {entry : HostName × SectionData} :
    (NodeRuns.after plugin call service run { store := store }
        [entry]).ending mode = (run entry).ending.ofNode entry.1 := by
  rw [NodeRuns.after_singleton]
  unfold NodeRuns.ending
  cases hending : (run entry).ending with
  | yielded outputs =>
      simp only [Ending.result?, Ending.message?, Ending.stop?, Ending.stops,
        Ending.ofNode, CheckOutput.worstState?_eq]
      cases (CheckOutput.results outputs).isEmpty with
      | true => rfl
      | false =>
          -- no other node is left to be mentioned
          show Ending.yielded (labelOutputs entry.1 outputs ++ []) = _
          rw [List.append_nil]
          rfl
  | ignored message | timedOut | failed message | crashed message => rfl

/-- The call for a service of a cluster with one node is one call of the
function for hosts on the sections of the node, and its ending is handed
on. -/
theorem CheckPlugin.invokeCluster_lone (plugin : CheckPlugin)
    {mode : ClusterMode} {call : ClusterCall} (service : CurrentService)
    {node : HostName} {sections : SectionData} (hmode : mode ≠ .native)
    (hnodes : call.nodes = .ofList [(node, sections)])
    (hcontent : sections.hasContent = true) (store : ValueStore) :
    ∃ values, (plugin.invokeCluster mode call service store).ending
        = mode.handOn node
          (plugin.function (call.onNode sections) service values).ending
      ∧ (plugin.invokeCluster mode call service store).calls
        = [plugin.callOn call service (node, sections)] := by
  have hentries : call.nodes.entries = [(node, sections)] := by
    rw [hnodes]
    rfl
  by_cases hper : mode.perNode = true
  · have hcalled : ∀ run : HostName × SectionData → CheckRun,
        calledNodes run [(node, sections)] = [(node, sections)] := by
      intro run
      unfold calledNodes
      split <;> rfl
    refine ⟨store.workingCopy (service.namespaceKey.withNode node), ?_⟩
    unfold ClusterMode.handOn
    rw [invokeCluster_perNode hper (by rw [hentries]; simpa using hcontent),
      if_pos hper]
    simp only [hentries, hcalled]
    refine ⟨NodeRuns.ending_of_lone mode, ?_⟩
    simp only [NodeRuns.after_singleton, List.nil_append]
  · have hmerge : mode = .merge := by
      cases mode with
      | native => exact absurd rfl hmode
      | merge => rfl
      | worst | best | failover => exact absurd rfl hper
    subst hmerge
    have hmerged : call.merged = call.onNode sections := by
      unfold ClusterCall.merged ClusterCall.onNode SortedMap.values
      rw [hentries]
      exact congrArg _ (mergeSections_singleton sections)
    refine ⟨store.workingCopy service.namespaceKey, ?_⟩
    rw [← hmerged]
    unfold CheckPlugin.callOn
    rw [← hmerged]
    exact ⟨rfl, rfl⟩

-- ==================================================== the data

namespace Topology

/-- Of the nodes that own a service of a cluster, `node` is the only one
that has data for it. -/
structure OnlyNode (t : Topology) (env : CheckEnvironment) (service : Service)
    (plugin : CheckPlugin) (node : HostName) : Prop where
  cluster : t.isCluster = true
  owns : ∃ key, t.Reads env.effectiveHost service key ∧ key.host = node
  only : ∀ key, t.Reads env.effectiveHost service key →
    ((∃ name ∈ plugin.sections, (env.providers.resolve? key name).isSome)
      ↔ key.host = node)

/-- A node as a host of its own. -/
def plain (node : HostName) : Topology := { host := node }

variable {t : Topology} {env : CheckEnvironment} {service : Service}
    {plugin : CheckPlugin} {node : HostName}

/-- All that is collected for the cluster is what is collected for the
node. -/
private theorem collected_of_onlyNode (h : t.OnlyNode env service plugin node) :
    ∃ sections infos,
      Providers.collect? env.providers plugin.sections
          ⟨node, PluginName.sourceType service.plugin⟩ = some (sections, infos)
        ∧ ∀ found, found ∈ env.providers.collectAll plugin.sections
            ((t.owningNodes service.description env.effectiveHost).map
              (⟨·, PluginName.sourceType service.plugin⟩))
          ↔ found = (node, sections, infos) := by
  obtain ⟨key, hreads, hhost⟩ := h.owns
  have hmem := (reads_node_iff h.cluster).mp hreads
  have hkey : key = ⟨node, PluginName.sourceType service.plugin⟩ := by
    obtain ⟨owner, -, rfl⟩ := List.mem_map.mp hmem
    rw [← hhost]
  obtain ⟨⟨sections, infos⟩, hcollect⟩ := Option.isSome_iff_exists.mp
    (Providers.collect?_isSome_iff.mpr ((h.only key hreads).mpr hhost))
  refine ⟨sections, infos, hkey ▸ hcollect, ?_⟩
  rintro ⟨owner, sections', infos'⟩
  rw [Providers.mem_collectAll]
  constructor
  · rintro ⟨key', hmem', rfl, hcollect'⟩
    have hreads' := (reads_node_iff h.cluster).mpr hmem'
    have hhost' := (h.only key' hreads').mp
      (Providers.collect?_isSome_iff.mp (by rw [hcollect']; rfl))
    rw [hreads'.eq_of_host_eq hreads (hhost'.trans hhost.symm), hcollect]
      at hcollect'
    injection hcollect' with heq
    rw [heq, hhost']
  · rintro heq
    injection heq with howner heq
    exact ⟨key, hmem, hhost.trans howner.symm, hcollect.trans (by rw [heq])⟩

/-- Where all that is collected is that of one node, it is the data: a node
that occurs twice among the owners is collected twice, but counts once. -/
private theorem clusterData?_of_lone {providers : Providers}
    {names : List ParsedName} {keys : List HostKey} {sections : SectionData}
    {infos : List CacheInfo}
    (hall : ∀ found, found ∈ providers.collectAll names keys
      ↔ found = (node, sections, infos)) :
    clusterData? providers names keys
      = some ⟨.cluster (.ofList [(node, sections)]),
        CacheInfo.aggregate infos⟩ := by
  have hnodes : SortedMap.ofList ((providers.collectAll names keys).map
      fun found => (found.1, found.2.1)) = .ofList [(node, sections)] := by
    refine SortedMap.ofList_congr ?_ ?_
    · intro host data data' hdata hdata'
      simp only [List.mem_map, hall, exists_eq_left, Prod.mk.injEq]
        at hdata hdata'
      exact hdata.2.symm.trans hdata'.2
    · intro e
      simp only [List.mem_map, hall, exists_eq_left, List.mem_singleton]
      exact eq_comm
  have hage : CacheInfo.aggregate ((providers.collectAll names keys).flatMap
      (·.2.2)) = CacheInfo.aggregate infos := by
    refine CacheInfo.aggregate_congr fun info => ?_
    simp only [List.mem_flatMap, hall, exists_eq_left]
  rw [clusterData?_eq (List.ne_nil_of_mem ((hall _).mpr rfl)), hnodes, hage]

/-- A cluster of which one node has data has the data of the node, and is as
old as the node's. -/
theorem dataFor_of_onlyNode (h : t.OnlyNode env service plugin node) :
    ∃ sections info, sections.hasContent = true
      ∧ t.dataFor env service plugin
        = .ok ⟨.cluster (.ofList [(node, sections)]), info⟩
      ∧ (plain node).dataFor env service plugin
        = .ok ⟨.host sections, info⟩ := by
  obtain ⟨sections, infos, hcollect, hall⟩ := collected_of_onlyNode h
  refine ⟨sections, CacheInfo.aggregate infos, hasContent_of_collect? hcollect,
    ?_, ?_⟩
  · unfold dataFor serviceData
    rw [if_pos h.cluster]
    simp only [clusterData?_of_lone hall]
  · unfold dataFor serviceData plain
    simp only [Bool.false_eq_true, if_false, hcollect]

end Topology

-- ==================================================== two checks

/-- A plugin looks at the arguments of a call only: neither at the values
of the service nor at the host that the service is of. -/
def CheckPlugin.IsPortable (plugin : CheckPlugin) : Prop :=
  ∀ (call : CheckCall) (current : CurrentService) (host : HostName)
    (values values' : Namespace),
    (plugin.function call { current with host } values).ending
      = (plugin.function call current values').ending

/-- A result with all but its text. -/
def ServiceOutcome.withoutText (o : ServiceOutcome) : ServiceOutcome :=
  { o with result := { o.result with output := "" } }

/-- Answers that are the same but for the identity of a report differ in
their text only. -/
theorem ServiceOutcome.SameAnswer.withoutText
    {answer answer' : Except Abort ServiceOutcome}
    (h : ServiceOutcome.SameAnswer answer answer') :
    answer.map (·.withoutText) = answer'.map (·.withoutText) := by
  cases answer with
  | error abort =>
      cases answer' with
      | error abort' => exact congrArg Except.error h
      | ok outcome' => cases h
  | ok outcome =>
      cases answer' with
      | error abort' => cases h
      | ok outcome' =>
          rcases h with rfl | ⟨service, report, id, info, rfl, rfl⟩
          · rfl
          · rfl

namespace Topology

variable {t : Topology} {env : CheckEnvironment} {service : Service}
    {plugin : CheckPlugin} {node : HostName}

/-- Outputs and labelled outputs come to results that differ in their text
only. -/
private theorem withoutText_of_namesNode {outputs labelled : List CheckOutput}
    (hnames : NamesNode node outputs labelled) (info : Option CacheInfo) :
    (ServiceOutcome.finished service (.ofOutputs labelled) info).withoutText
      = (ServiceOutcome.finished service (.ofOutputs outputs)
          info).withoutText := by
  obtain ⟨hmetrics, hstates⟩ := hnames.keeps
  have hempty : (CheckOutput.results labelled).isEmpty
      = (CheckOutput.results outputs).isEmpty := by
    rw [← List.isEmpty_map (f := (·.state)), hstates, List.isEmpty_map]
  unfold ServiceOutcome.withoutText ServiceOutcome.finished
    ServiceResult.ofOutputs
  simp only [hempty]
  split
  case isTrue => rfl
  case isFalse => simp only [hstates, hmetrics]

/-- A service with data comes to what becomes of the ending of its call. -/
private theorem checkService_of_ending {ending : Ending} {state : CheckState}
    (h : t.ending? env service plugin state.store = some ending) :
    ∃ call after, t.checkService env service plugin state
      = t.conclude env service call (t.cacheInfoFor env service plugin) ending
          after := by
  cases hdata : t.dataFor env service plugin with
  | error result =>
      rw [ending?_of_noData hdata] at h
      cases h
  | ok data =>
      rw [ending?_of_data hdata] at h
      injection h with h
      unfold cacheInfoFor
      rw [checkService_of_data hdata, h, hdata]
      exact ⟨_, _, rfl⟩

/-- A call that yields outputs comes to the result of the outputs. -/
private theorem answer_of_yielded {outputs : List CheckOutput}
    {state : CheckState}
    (h : t.ending? env service plugin state.store = some (.yielded outputs)) :
    (t.checkService env service plugin state).1
      = .ok (.finished service (.ofOutputs outputs)
          (t.cacheInfoFor env service plugin)) := by
  obtain ⟨call, after, hcheck⟩ := checkService_of_ending h
  rw [hcheck]
  rfl

/-- An interrupted call is the end of the check. -/
private theorem answer_of_timedOut {state : CheckState}
    (h : t.ending? env service plugin state.store = some .timedOut) :
    (t.checkService env service plugin state).1 = .error (.error .timeout) := by
  obtain ⟨call, after, hcheck⟩ := checkService_of_ending h
  rw [hcheck]
  rfl

/-- Calls that end in the same way, on data of one age, come to the same
answer on any two topologies. -/
private theorem sameAnswer_of_ending {t' : Topology} {ending : Ending}
    {state state' : CheckState}
    (h : t.ending? env service plugin state.store = some ending)
    (h' : t'.ending? env service plugin state'.store = some ending)
    (hinfo : t.cacheInfoFor env service plugin
      = t'.cacheInfoFor env service plugin) :
    ServiceOutcome.SameAnswer (t.checkService env service plugin state).1
      (t'.checkService env service plugin state').1 := by
  obtain ⟨call, after, hcheck⟩ := checkService_of_ending h
  obtain ⟨call', after', hcheck'⟩ := checkService_of_ending h'
  rw [hcheck, hcheck', hinfo]
  exact conclude_sameAnswer

/-- The calls of a service with data are those that its plugin makes. -/
private theorem calls_of_data {data : ServiceData} {state : CheckState}
    (h : t.dataFor env service plugin = .ok data) :
    (t.checkService env service plugin state).2.calls = state.calls
      ++ (t.invoke env service plugin (callFor env service plugin data)
        state.store).calls := by
  rw [checkService_of_data h, conclude_keeps.2.1]
  rfl

/-- The checks of the cluster and of the node are one call each, with the same
arguments, and the cluster hands its ending on. -/
private theorem calls_of_onlyNode (h : t.OnlyNode env service plugin node)
    (hmode : env.clusterMode t.host service.description ≠ .native)
    (state state' : CheckState) :
    ∃ call values values',
      (t.checkService env service plugin state).2.calls
          = state.calls
            ++ [⟨plugin.declaredAs, t.current service, .host call⟩]
        ∧ ((plain node).checkService env service plugin state').2.calls
          = state'.calls
            ++ [⟨plugin.declaredAs, (plain node).current service, .host call⟩]
        ∧ t.cacheInfoFor env service plugin
          = (plain node).cacheInfoFor env service plugin
        ∧ t.ending? env service plugin state.store
          = some ((env.clusterMode t.host service.description).handOn node
            (plugin.function call (t.current service) values).ending)
        ∧ (plain node).ending? env service plugin state'.store
          = some (plugin.function call ((plain node).current service)
            values').ending := by
  obtain ⟨sections, info, hcontent, hdata, hdata'⟩ := dataFor_of_onlyNode h
  obtain ⟨clusterCall, hcall, hnodes, hon⟩ : ∃ clusterCall : ClusterCall,
      callFor env service plugin
          ⟨.cluster (.ofList [(node, sections)]), info⟩ = .cluster clusterCall
        ∧ clusterCall.nodes = .ofList [(node, sections)]
        ∧ callFor env service plugin ⟨.host sections, info⟩
          = .host (clusterCall.onNode sections) := ⟨_, rfl, rfl, rfl⟩
  obtain ⟨values, hending, hcalls⟩ := plugin.invokeCluster_lone
    (t.current service) hmode hnodes hcontent state.store
  refine ⟨clusterCall.onNode sections, values,
    state'.store.workingCopy ((plain node).current service).namespaceKey,
    ?_, ?_, ?_, ?_, ?_⟩
  · rw [calls_of_data hdata, hcall]
    exact congrArg (state.calls ++ ·) hcalls
  · rw [calls_of_data hdata', hon]
    rfl
  · unfold cacheInfoFor
    rw [hdata, hdata']
  · rw [ending?_of_data hdata, hcall]
    exact congrArg some hending
  · rw [ending?_of_data hdata', hon]
    rfl

-- ==================================================== the main statement

/-- A cluster of which one node has data is like the node as a host. Its
plugin is called once, with the same arguments. If the plugin looks at nothing
else, then on merged sections the answer is the same, the identity of a crash
report apart. Node by node it is the same but for the text, and only outputs
make that difference: the name of the node is put in front of their first
summary, and without a sub-result among them the item was not found, for both.
An interrupted call ends both checks. -/
theorem lone_node_as_host (t : Topology) (env : CheckEnvironment)
    (service : Service) (plugin : CheckPlugin) (node : HostName)
    (state state' : CheckState) (honly : t.OnlyNode env service plugin node)
    (hmode : env.clusterMode t.host service.description ≠ .native) :
    let mode := env.clusterMode t.host service.description
    let host := plain node
    let clustered := t.checkService env service plugin state
    let alone := host.checkService env service plugin state'
    let info := host.cacheInfoFor env service plugin
    (∃ call, clustered.2.calls = state.calls
          ++ [⟨plugin.declaredAs, t.current service, .host call⟩]
        ∧ alone.2.calls = state'.calls
          ++ [⟨plugin.declaredAs, host.current service, .host call⟩])
      ∧ (plugin.IsPortable → ∃ ending,
        host.ending? env service plugin state'.store = some ending
        ∧ (mode = .merge → ServiceOutcome.SameAnswer clustered.1 alone.1)
        ∧ (mode.perNode = true →
          clustered.1.map (·.withoutText) = alone.1.map (·.withoutText)
          ∧ ((∀ outputs, ending ≠ .yielded outputs) →
              ServiceOutcome.SameAnswer clustered.1 alone.1)
          ∧ ∀ outputs, ending = .yielded outputs →
            (CheckOutput.results outputs = [] →
              clustered.1 = .ok (.finished service .itemNotFound info)
              ∧ alone.1 = .ok (.finished service .itemNotFound info))
            ∧ (CheckOutput.results outputs ≠ [] → ∃ labelled,
              NamesNode node outputs labelled
              ∧ t.ending? env service plugin state.store
                = some (.yielded labelled)
              ∧ clustered.1
                = .ok (.finished service (.ofOutputs labelled) info)
              ∧ alone.1 = .ok (.finished service (.ofOutputs outputs) info)))
        ∧ (ending = .timedOut → clustered.1 = .error (.error .timeout)
          ∧ alone.1 = .error (.error .timeout))) := by
  intro mode host clustered alone info
  obtain ⟨call, values, values', hcalls, hcalls', hinfo, hending, hending'⟩ :=
    calls_of_onlyNode honly hmode state state'
  refine ⟨⟨call, hcalls, hcalls'⟩, fun hportable => ?_⟩
  rw [← hportable call (t.current service) node values' values] at hending
  -- from here on the plugin counts as its one ending only
  generalize hone : (plugin.function call
    { t.current service with host := node } values').ending = ending at hending
  rw [show (plugin.function call (host.current service) values').ending
    = ending from hone] at hending'
  have hkept : mode.handOn node ending = ending →
      ServiceOutcome.SameAnswer clustered.1 alone.1 := fun hkeeps =>
    sameAnswer_of_ending (hending.trans (congrArg some hkeeps)) hending' hinfo
  have hother : (∀ outputs, ending ≠ .yielded outputs) →
      ServiceOutcome.SameAnswer clustered.1 alone.1 :=
    fun hne => hkept (ClusterMode.handOn_eq hne)
  have hmissing : ∀ outputs, mode.perNode = true → ending = .yielded outputs →
      CheckOutput.results outputs = [] →
      clustered.1 = .ok (.finished service .itemNotFound info)
        ∧ alone.1 = .ok (.finished service .itemNotFound info) := by
    rintro outputs hper rfl hnone
    rw [ClusterMode.handOn_of_no_results hper hnone] at hending
    have hclustered := answer_of_yielded hending
    have halone := answer_of_yielded hending'
    rw [hinfo] at hclustered
    rw [ServiceResult.ofOutputs_of_no_results hnone] at halone
    exact ⟨hclustered, halone⟩
  have hlabels : ∀ outputs, mode.perNode = true → ending = .yielded outputs →
      CheckOutput.results outputs ≠ [] → ∃ labelled,
        NamesNode node outputs labelled
        ∧ t.ending? env service plugin state.store = some (.yielded labelled)
        ∧ clustered.1 = .ok (.finished service (.ofOutputs labelled) info)
        ∧ alone.1 = .ok (.finished service (.ofOutputs outputs) info) := by
    rintro outputs hper rfl hsome
    rw [ClusterMode.handOn_of_results hper hsome] at hending
    have hclustered := answer_of_yielded hending
    rw [hinfo] at hclustered
    exact ⟨_, labelOutputs_namesNode node outputs, hending, hclustered,
      answer_of_yielded hending'⟩
  refine ⟨ending, hending', fun hmerge => hkept ?_, fun hper => ⟨?_, hother,
    fun outputs h => ⟨hmissing outputs hper h, hlabels outputs hper h⟩⟩, ?_⟩
  · unfold ClusterMode.handOn
    rw [hmerge]
    rfl
  · by_cases hyields : ∃ outputs, ending = .yielded outputs
    · obtain ⟨outputs, hyields⟩ := hyields
      by_cases hresults : CheckOutput.results outputs = []
      · obtain ⟨hclustered, halone⟩ := hmissing outputs hper hyields hresults
        rw [hclustered, halone]
      · obtain ⟨labelled, hnames, -, hclustered, halone⟩ :=
          hlabels outputs hper hyields hresults
        rw [hclustered, halone]
        exact congrArg Except.ok (withoutText_of_namesNode hnames info)
    · exact (hother fun outputs h => hyields ⟨outputs, h⟩).withoutText
  · rintro rfl
    rw [ClusterMode.handOn_eq (fun _ h => by cases h)] at hending
    exact ⟨answer_of_timedOut hending, answer_of_timedOut hending'⟩

/-- The first node of the pair has delivered the section `load`, the second
one nothing. -/
def loneProviders : Providers :=
  makeProviders .empty (.ofList [
    (⟨"alpha", .host⟩, (∅ : HostSections).addSection "load" [["1"]] none)])

/-- Checks of the pair of which one node has data. -/
def loneEnvironment (mode : ClusterMode) : CheckEnvironment :=
  { pairEnvironment mode with providers := loneProviders }

/-- The first node is the only one with data. -/
private theorem onlyNode_pair (mode : ClusterMode) (plugin : CheckPlugin)
    (hsections : plugin.sections = ["load"]) :
    pairTopology.OnlyNode (loneEnvironment mode) loadService plugin
      "alpha" := by
  have hreads : ∀ key,
      pairTopology.Reads (loneEnvironment mode).effectiveHost loadService key
        ↔ key ∈ [⟨"alpha", .host⟩, ⟨"beta", .host⟩] := fun key =>
    reads_node_iff (t := pairTopology) rfl
  refine ⟨rfl, ⟨⟨"alpha", .host⟩, (hreads _).mpr (by decide), rfl⟩, ?_⟩
  intro key hkey
  rw [hsections]
  have hkeys := (hreads key).mp hkey
  simp only [List.mem_cons, List.not_mem_nil, or_false] at hkeys
  show (∃ name ∈ ["load"], (loneProviders.resolve? key name).isSome = true) ↔ _
  simp only [List.mem_singleton, exists_eq_left]
  rcases hkeys with rfl | rfl
  · decide +kernel
  · decide +kernel

/-- In a failover cluster of which one node has data, its summary gets the
name of the node, and nothing else changes. -/
theorem lone_node_as_host_failover :
    let env := loneEnvironment .failover
    let plugin := contentPlugin "load"
    pairTopology.OnlyNode env loadService plugin "alpha"
      ∧ plugin.IsPortable
      ∧ ∃ labelled info,
        NamesNode "alpha" [.ofSummary .ok "fine"] labelled
          ∧ (pairTopology.checkService env loadService plugin {}).1
            = .ok (.finished loadService (.ofOutputs labelled) info)
          ∧ ((plain "alpha").checkService env loadService plugin {}).1
            = .ok (.finished loadService (.ofOutputs [.ofSummary .ok "fine"])
              info) := by
  intro env plugin
  have honly := onlyNode_pair .failover plugin rfl
  have hportable : plugin.IsPortable := fun _ _ _ _ _ => rfl
  obtain ⟨-, hanswers⟩ := lone_node_as_host pairTopology env loadService plugin
    "alpha" {} {} honly (by decide)
  obtain ⟨ending, hending, -, hper, -⟩ := hanswers hportable
  have hyields : ending = .yielded [.ofSummary .ok "fine"] := by
    have hfine : (plain "alpha").ending? env loadService plugin ∅
        = some (.yielded [.ofSummary .ok "fine"]) := by decide +kernel
    exact Option.some.inj (hending.symm.trans hfine)
  obtain ⟨labelled, hnames, -, hclustered, halone⟩ :=
    ((hper rfl).2.2 _ hyields).2 (by decide)
  exact ⟨honly, hportable, labelled, _, hnames, hclustered, halone⟩

/-- A plugin that says which service of which host it was called for. -/
def introducingPlugin : CheckPlugin where
  name := "load"
  sections := ["load"]
  function _ current values :=
    { ending := .yielded [.ofSummary .ok current.label], values }

/-- That a plugin makes no use of the values of the service is not enough: one
that names the host of the service names the cluster instead of the node, and
its answer is another one on merged sections, too. -/
theorem naming_host_shows_cluster :
    let env := loneEnvironment .merge
    pairTopology.OnlyNode env loadService introducingPlugin "alpha"
      ∧ (∀ call current values values',
          (introducingPlugin.function call current values).ending
            = (introducingPlugin.function call current values').ending)
      ∧ ¬ ServiceOutcome.SameAnswer
        (pairTopology.checkService env loadService introducingPlugin {}).1
        ((plain "alpha").checkService env loadService introducingPlugin
          {}).1 := by
  intro env
  have hclustered :
      (pairTopology.checkService env loadService introducingPlugin
        {}).1.toOption.map (·.result)
        = some ⟨.ok, "Load on pair\nLoad on pair", []⟩ := by decide +kernel
  have halone :
      ((plain "alpha").checkService env loadService introducingPlugin
        {}).1.toOption.map (·.result)
        = some ⟨.ok, "Load on alpha\nLoad on alpha", []⟩ := by decide +kernel
  refine ⟨onlyNode_pair .merge introducingPlugin rfl, fun _ _ _ _ => rfl,
    fun hsame => ?_⟩
  generalize (pairTopology.checkService env loadService introducingPlugin
    {}).1 = answer at hclustered hsame
  generalize ((plain "alpha").checkService env loadService introducingPlugin
    {}).1 = answer' at halone hsame
  cases answer with
  | error abort => cases hclustered
  | ok outcome =>
      cases answer' with
      | error abort' => cases halone
      | ok outcome' =>
          have hresult := Option.some.inj hclustered
          have hresult' := Option.some.inj halone
          rcases hsame with rfl | ⟨service, report, id, info, rfl, rfl⟩
          · -- the same text cannot name both hosts
            have houtput := congrArg (·.output) (hresult.symm.trans hresult')
            exact absurd houtput (by decide)
          · have hstate := congrArg (·.state) hresult
            cases hstate

end Topology

end HostWatch
