/-
How a cluster that is checked node by node comes to one result.

`nodeEndings` lists the nodes with data, in the order of names, each with
how its call ends; `candidates` are those of them that yield sub-results,
each with the state that its outputs would have as a result of their own.
One candidate is picked: the first one at the extreme that the mode asks
for (`Picks`). Its outputs are handed on with its name in front of their
first summary (`NamesNode`), and each other candidate gets one remark.

The main statement (`mode_decides_state`) carries this through to the
result of the service: the remarks have no metrics, and no state that
could outdo the picked node's, but for a second candidate in a failover
cluster, which is worth a warning. It says of every service of a cluster
what becomes of it, those included whose nodes have no data at all: no
function is called for them, and so their result is not that of a cluster
whose nodes have nothing to say.

The choice is made by one pass from the back, so the induction is on the
list with the choice among the later nodes as its hypothesis; a node in
front takes over unless the later choice outdoes it strictly, which is why
ties go to the first.
-/
import HostWatch.Proofs.Check.Service
import HostWatch.Proofs.ServiceResult

namespace HostWatch

-- ==================================================== the choice

/-- The nodes that yield sub-results, each with the state of its own
result. -/
def candidates (nodes : List (HostName × Ending)) : List NodeResult :=
  nodes.filterMap fun (node, ending) =>
    match ending with
    | .yielded outputs =>
      if (CheckOutput.results outputs).isEmpty then none
      else some ⟨node, outputs, (ServiceResult.ofOutputs outputs).state⟩
    | _ => none

/-- A node is at the extreme that a mode asks for, and the first one
there: the nodes in front of it fall short of it, and none behind it
goes further. -/
def ClusterMode.Picks (mode : ClusterMode) (before : List NodeResult)
    (chosen : NodeResult) (after : List NodeResult) : Prop :=
  match mode with
  | .best =>
    (∀ other ∈ before, chosen.state.rank < other.state.rank)
      ∧ ∀ other ∈ after, chosen.state.rank ≤ other.state.rank
  | _ =>
    (∀ other ∈ before, other.state.rank < chosen.state.rank)
      ∧ ∀ other ∈ after, other.state.rank ≤ chosen.state.rank

/-- What the loop over the nodes takes for the results of the nodes are
the candidates. -/
theorem filterMap_result? (nodes : List (HostName × Ending)) :
    nodes.filterMap (fun node => node.2.result? node.1) = candidates nodes := by
  unfold candidates
  congr 1
  funext ⟨node, ending⟩
  unfold Ending.result?
  cases ending with
  | yielded outputs =>
      simp only [CheckOutput.worstState?_eq]
      split <;> rfl
  | ignored message | timedOut | failed message | crashed message => rfl

/-- A candidate has sub-results, and its state is that of its own result. -/
theorem mem_candidates {nodes : List (HostName × Ending)}
    {candidate : NodeResult}
    (h : candidate ∈ candidates nodes) :
    CheckOutput.results candidate.outputs ≠ []
      ∧ candidate.state
        = (ServiceResult.ofOutputs candidate.outputs).state := by
  obtain ⟨⟨node, ending⟩, -, hcandidate⟩ := List.mem_filterMap.mp h
  cases ending with
  | yielded outputs =>
      simp only at hcandidate
      split at hcandidate
      case isTrue => cases hcandidate
      case isFalse hne =>
        injection hcandidate with hcandidate
        subst hcandidate
        exact ⟨fun hnil => hne (by rw [hnil]; rfl), rfl⟩
  | ignored message | timedOut | failed message | crashed message =>
      cases hcandidate

/-- A state that outdoes another one outdoes all that the other one does. -/
private theorem preferred_trans {mode : ClusterMode} {a b c : State}
    (hab : preferred mode a b = true) (hbc : preferred mode b c = true) :
    preferred mode a c = true := by
  unfold preferred at *
  cases mode <;> simp only [decide_eq_true_eq] at * <;> omega

/-- A state that is not outdone by another one outdoes what the other
one outdoes. -/
private theorem not_preferred_trans {mode : ClusterMode} {a b c : State}
    (hab : preferred mode a b = false) (hbc : preferred mode b c = false) :
    preferred mode a c = false := by
  unfold preferred at *
  cases mode <;> simp only [decide_eq_false_iff_not] at * <;> omega

/-- Some node is selected where there are any. -/
private theorem selectNode_cons (better : State → State → Bool)
    (node : NodeResult) (rest : List NodeResult) :
    ∃ choice, selectNode better (node :: rest) = some choice := by
  unfold selectNode
  split
  · exact ⟨_, rfl⟩
  · split <;> exact ⟨_, rfl⟩

/-- The node that is selected outdoes all nodes in front of it, and none
behind it outdoes it. -/
private theorem selectNode_spec {mode : ClusterMode} :
    ∀ {nodes : List NodeResult} {chosen : NodeResult}
      {others : List NodeResult},
      selectNode (preferred mode) nodes = some (chosen, others) →
      ∃ before after, nodes = before ++ chosen :: after
        ∧ others = before ++ after
        ∧ (∀ other ∈ before, preferred mode chosen.state other.state = true)
        ∧ ∀ other ∈ after, preferred mode other.state chosen.state = false := by
  intro nodes
  induction nodes with
  | nil => intro chosen others h; cases h
  | cons node rest ih =>
      intro chosen others h
      unfold selectNode at h
      cases hrest : selectNode (preferred mode) rest with
      | none =>
          rw [hrest] at h
          injection h with h
          injection h with h1 h2
          subst h1 h2
          have hnil : rest = [] := by
            cases rest with
            | nil => rfl
            | cons other more =>
                obtain ⟨choice, hchoice⟩ :=
                  selectNode_cons (preferred mode) other more
                rw [hchoice] at hrest
                cases hrest
          subst hnil
          exact ⟨[], [], rfl, rfl, by simp, by simp⟩
      | some later =>
          obtain ⟨last, others'⟩ := later
          obtain ⟨before, after, hsplit, hothers, hbefore, hafter⟩ := ih hrest
          rw [hrest] at h
          simp only at h
          split at h
          case isTrue hbetter =>
            injection h with h
            injection h with h1 h2
            subst h1 h2
            refine ⟨node :: before, after, by rw [hsplit]; rfl,
              by rw [hothers]; rfl, ?_, hafter⟩
            intro other hother
            rcases List.mem_cons.mp hother with rfl | hother
            · exact hbetter
            · exact hbefore other hother
          case isFalse hbetter =>
            injection h with h
            injection h with h1 h2
            subst h1 h2
            refine ⟨[], rest, rfl, rfl, by simp, ?_⟩
            have hkeeps : preferred mode last.state node.state = false := by
              simpa using hbetter
            intro other hother
            rw [hsplit] at hother
            rcases List.mem_append.mp hother with hother | hother
            · -- it falls short of the later choice, which keeps behind the node
              cases hout : preferred mode other.state node.state with
              | false => rfl
              | true =>
                  rw [preferred_trans (hbefore other hother) hout] at hkeeps
                  cases hkeeps
            · rcases List.mem_cons.mp hother with rfl | hother
              · exact hkeeps
              · exact not_preferred_trans (hafter other hother) hkeeps

/-- Some node is selected where there are any, and it is one that the
mode picks. -/
theorem selectNode_picks (mode : ClusterMode) {nodes : List NodeResult}
    (hne : nodes ≠ []) :
    ∃ before chosen after, nodes = before ++ chosen :: after
      ∧ mode.Picks before chosen after
      ∧ selectNode (preferred mode) nodes = some (chosen, before ++ after) := by
  cases hsel : selectNode (preferred mode) nodes with
  | none =>
      cases nodes with
      | nil => exact absurd rfl hne
      | cons node rest =>
          obtain ⟨choice, hchoice⟩ := selectNode_cons (preferred mode) node rest
          rw [hchoice] at hsel
          cases hsel
  | some choice =>
      obtain ⟨chosen, others⟩ := choice
      obtain ⟨before, after, hsplit, rfl, hbefore, hafter⟩ :=
        selectNode_spec hsel
      refine ⟨before, chosen, after, hsplit, ?_, rfl⟩
      unfold ClusterMode.Picks
      unfold preferred at hbefore hafter
      cases mode <;>
        simp only [decide_eq_true_eq, decide_eq_false_iff_not,
          Nat.not_lt] at hbefore hafter <;>
        exact ⟨hbefore, hafter⟩

-- ==================================================== the outputs

/-- The outputs of a node with its name in front of the first summary,
if there is one. -/
def NamesNode (node : HostName) (outputs labelled : List CheckOutput) : Prop :=
  (labelled = outputs ∧ ∀ r ∈ CheckOutput.results outputs, r.summary = "")
    ∨ ∃ before r after, outputs = before ++ .result r :: after
        ∧ (∀ r' ∈ CheckOutput.results before, r'.summary = "") ∧ r.summary ≠ ""
        ∧ labelled = before
          ++ .result { r with summary := s!"[{node}]: {r.summary}" } :: after

/-- An output without a summary leaves the name for the outputs behind it. -/
private theorem NamesNode.cons {node : HostName}
    {outputs labelled : List CheckOutput}
    (h : NamesNode node outputs labelled) {output : CheckOutput}
    (hnone : ∀ r ∈ CheckOutput.results [output], r.summary = "") :
    NamesNode node (output :: outputs) (output :: labelled) := by
  have hresults : ∀ outputs,
      (∀ r ∈ CheckOutput.results outputs, r.summary = "") →
      ∀ r ∈ CheckOutput.results (output :: outputs), r.summary = "" := by
    intro outputs hall r hr
    rw [← List.singleton_append, CheckOutput.results_append] at hr
    rcases List.mem_append.mp hr with hr | hr
    · exact hnone r hr
    · exact hall r hr
  rcases h with ⟨rfl, hall⟩ | ⟨before, r, after, rfl, hall, hr, rfl⟩
  · exact Or.inl ⟨rfl, hresults _ hall⟩
  · exact Or.inr ⟨output :: before, r, after, rfl, hresults _ hall, hr, rfl⟩

/-- The picked node's outputs are handed on with its name in front of
the first summary. -/
theorem labelOutputs_namesNode (node : HostName) (outputs : List CheckOutput) :
    NamesNode node outputs (labelOutputs node outputs) := by
  induction outputs with
  | nil => exact Or.inl ⟨rfl, fun r hr => by cases hr⟩
  | cons output rest ih =>
      cases output with
      | metric m => exact ih.cons fun r hr => by cases hr
      | result r =>
          unfold labelOutputs
          by_cases hsummary : r.summary = ""
          · rw [if_neg (by simp [hsummary])]
            refine ih.cons fun r' hr' => ?_
            rw [List.mem_singleton.mp hr']
            exact hsummary
          · rw [if_pos (by simp [hsummary])]
            exact Or.inr ⟨[], r, rest, rfl, (fun r' hr' => by cases hr'),
              hsummary, rfl⟩

/-- A name in front of a summary changes neither the metrics nor the
states. -/
theorem NamesNode.keeps {node : HostName} {outputs labelled : List CheckOutput}
    (h : NamesNode node outputs labelled) :
    CheckOutput.metrics labelled = CheckOutput.metrics outputs
      ∧ (CheckOutput.results labelled).map (·.state)
        = (CheckOutput.results outputs).map (·.state) := by
  rcases h with ⟨rfl, -⟩ | ⟨before, r, after, rfl, -, -, rfl⟩
  · exact ⟨rfl, rfl⟩
  · constructor
    · rw [CheckOutput.metrics_append, CheckOutput.metrics_append]
      rfl
    · rw [CheckOutput.results_append, CheckOutput.results_append,
        List.map_append, List.map_append]
      rfl

/-- The state of the remarks on the candidates that were not picked. -/
def ClusterMode.remarkState : ClusterMode → State
  | .failover => .warn
  | _ => .ok

/-- A state with the remarks on the candidates that were not picked:
they count in a failover cluster only, where any second candidate is one
too many. -/
private theorem worst_remarkState (mode : ClusterMode) (s : State)
    (before after : List NodeResult) (chosen : NodeResult) :
    (if before ++ after = [] then s else s.worst mode.remarkState)
      = if mode = .failover ∧ 2 ≤ (before ++ chosen :: after).length then
          s.worst .warn
        else s := by
  have hlength : (before ++ chosen :: after).length
      = (before ++ after).length + 1 := by
    simp only [List.length_append, List.length_cons]
    omega
  rw [hlength]
  by_cases hnil : before ++ after = []
  · rw [if_pos hnil, hnil, if_neg]
    rintro ⟨-, htwo⟩
    exact absurd htwo (by decide)
  · have htwo : 2 ≤ (before ++ after).length + 1 := by
      have := List.length_pos_iff.mpr hnil
      omega
    rw [if_neg hnil]
    cases mode with
    | failover => rw [if_pos ⟨rfl, htwo⟩]; rfl
    | native | merge | worst | best =>
        rw [if_neg (by rintro ⟨hmode, -⟩; cases hmode)]
        exact State.worst_ok s

/-- Remarks have no metrics, and they are all in the one state of the mode. -/
theorem remarks_keep (mode : ClusterMode) (others : List NodeResult) :
    CheckOutput.metrics (others.map (mentionNode mode)) = []
      ∧ (CheckOutput.results (others.map (mentionNode mode))).map (·.state)
        = others.map fun _ => mode.remarkState := by
  induction others with
  | nil => exact ⟨rfl, rfl⟩
  | cons other others ih =>
      obtain ⟨hmetrics, hstates⟩ := ih
      rw [List.map_cons, ← List.singleton_append, CheckOutput.metrics_append,
        CheckOutput.results_append, List.map_append, hmetrics, hstates]
      unfold mentionNode
      cases mode <;> exact ⟨rfl, rfl⟩

-- ==================================================== the result

/-- The picked node's result with the remarks: its metrics, and its state
unless the remarks are worse. -/
theorem ofOutputs_chosen (mode : ClusterMode) (others : List NodeResult)
    {chosen : NodeResult} {labelled : List CheckOutput}
    (hresults : CheckOutput.results chosen.outputs ≠ [])
    (hstate : chosen.state = (ServiceResult.ofOutputs chosen.outputs).state)
    (hnames : NamesNode chosen.node chosen.outputs labelled) :
    let result :=
      ServiceResult.ofOutputs (labelled ++ others.map (mentionNode mode))
    result.state = (if others = [] then chosen.state
        else chosen.state.worst mode.remarkState)
      ∧ result.metrics = CheckOutput.metrics chosen.outputs := by
  obtain ⟨hmetrics, hstates⟩ := hnames.keeps
  obtain ⟨hremarks, hremarkStates⟩ := remarks_keep mode others
  have hne : CheckOutput.results (labelled ++ others.map (mentionNode mode))
      ≠ [] := by
    rw [CheckOutput.results_append]
    intro hnil
    obtain ⟨hnil, -⟩ := List.append_eq_nil_iff.mp hnil
    rw [hnil, List.map_nil] at hstates
    exact hresults (List.map_eq_nil_iff.mp hstates.symm)
  obtain ⟨hworst, hall⟩ := ServiceResult.ofOutputs_of_results hne
  refine ⟨?_, ?_⟩
  · show (ServiceResult.ofOutputs _).state = _
    -- the worst state of all is that of the picked node's or of the remarks
    rw [hworst, CheckOutput.results_append, List.map_append,
      State.worstOrOk_append, hstates, hremarkStates, hstate,
      (ServiceResult.ofOutputs_of_results hresults).1]
    split
    case isTrue hnil =>
      rw [hnil]
      exact State.worst_ok _
    case isFalse hother =>
      congr 1
      refine State.worstOrOk_of_forall_eq
        (fun hnil => hother (List.map_eq_nil_iff.mp hnil)) ?_
      intro state hmem
      obtain ⟨other, -, rfl⟩ := List.mem_map.mp hmem
      rfl
  · show (ServiceResult.ofOutputs _).metrics = _
    rw [hall, CheckOutput.metrics_append, hmetrics, hremarks, List.append_nil]

/-- How the calls on some nodes end as a whole, if none of them stops
the others. -/
def endingOfNodes (mode : ClusterMode) (nodes : List (HostName × Ending)) :
    Ending :=
  match candidates nodes, nodes.findSome? (·.2.message?) with
  | [], some message => .ignored message
  | results, _ => .yielded (clusterOutputs mode results)

/-- Without any candidate the first wish to be ignored counts, and else
there is nothing. -/
private theorem endingOfNodes_of_no_candidates {mode : ClusterMode}
    {nodes : List (HostName × Ending)} (hnone : candidates nodes = []) :
    endingOfNodes mode nodes =
      match nodes.findSome? (·.2.message?) with
      | some message => .ignored message
      | none => .yielded [] := by
  unfold endingOfNodes
  rw [hnone]
  cases nodes.findSome? (·.2.message?) with
  | some message => rfl
  | none => rfl

/-- With candidates there are the outputs of the one that is picked, and
the remarks on the others. -/
private theorem endingOfNodes_of_candidates (mode : ClusterMode)
    {nodes : List (HostName × Ending)} (hne : candidates nodes ≠ []) :
    ∃ before chosen after labelled,
      let outputs := labelled ++ (before ++ after).map (mentionNode mode)
      let result := ServiceResult.ofOutputs outputs
      candidates nodes = before ++ chosen :: after
        ∧ mode.Picks before chosen after
        ∧ NamesNode chosen.node chosen.outputs labelled
        ∧ endingOfNodes mode nodes = .yielded outputs
        ∧ result.metrics = CheckOutput.metrics chosen.outputs
        ∧ result.state =
            if mode = .failover ∧ 2 ≤ (candidates nodes).length then
              chosen.state.worst .warn
            else chosen.state := by
  obtain ⟨before, chosen, after, hsplit, hpicks, hselect⟩ :=
    selectNode_picks mode hne
  have hmem : chosen ∈ candidates nodes := by
    rw [hsplit]
    exact List.mem_append_right _ (List.mem_cons_self ..)
  obtain ⟨hresults, hstate⟩ := mem_candidates hmem
  have hnames := labelOutputs_namesNode chosen.node chosen.outputs
  obtain ⟨hresultState, hmetrics⟩ :=
    ofOutputs_chosen mode (before ++ after) hresults hstate hnames
  refine ⟨before, chosen, after, _, hsplit, hpicks, hnames, ?_, hmetrics, ?_⟩
  · unfold endingOfNodes
    split
    case h_1 hnil _ => exact absurd hnil hne
    case h_2 =>
      unfold clusterOutputs
      rw [hselect]
  · rw [hresultState, hsplit]
    exact worst_remarkState ..

namespace Topology

/-- The nodes of a cluster that have data for a service, in the order of
names, each with how the call on it ends. -/
def nodeEndings (t : Topology) (env : CheckEnvironment) (service : Service)
    (plugin : CheckPlugin) (store : ValueStore) : List (HostName × Ending) :=
  match t.dataFor env service plugin with
  | .error _ => []
  | .ok data =>
    match callFor env service plugin data with
    | .host _ => []
    | .cluster call =>
      call.nodes.entries.map fun entry =>
        (entry.1, (plugin.runOn call (t.current service) store entry).ending)

/-- The age of the data that a service has. -/
def cacheInfoFor (t : Topology) (env : CheckEnvironment) (service : Service)
    (plugin : CheckPlugin) : Option CacheInfo :=
  match t.dataFor env service plugin with
  | .error _ => none
  | .ok data => data.cacheInfo

variable {t : Topology} {env : CheckEnvironment} {service : Service}
    {plugin : CheckPlugin}

/-- Where no call stops the others, the ending of the whole is made of
the endings of all nodes. -/
private theorem ending_of_calm {mode : ClusterMode} {call : ClusterCall}
    {current : CurrentService} {store : ValueStore}
    {run : HostName × SectionData → CheckRun} {nodes : List (HostName × Ending)}
    (hnodes : nodes
      = call.nodes.entries.map fun entry => (entry.1, (run entry).ending))
    (hcalm : ∀ node ∈ nodes, node.2.stops = false) :
    (NodeRuns.after plugin call current run { store := store }
        (calledNodes run call.nodes.entries)).ending mode
      = endingOfNodes mode nodes := by
  have hcalls : ∀ entry ∈ call.nodes.entries,
      (run entry).ending.stops = false := by
    intro entry hentry
    exact hcalm _ (by rw [hnodes]; exact List.mem_map_of_mem hentry)
  have hresults :
      call.nodes.entries.filterMap (fun e => (run e).ending.result? e.1)
        = candidates nodes := by
    rw [← filterMap_result?, hnodes, List.filterMap_map]
    rfl
  have hignored :
      call.nodes.entries.findSome? (fun e => (run e).ending.message?)
        = nodes.findSome? (·.2.message?) := by
    rw [hnodes, List.findSome?_map]
    rfl
  have hstopped :
      call.nodes.entries.findSome? (fun e => (run e).ending.stop?) = none := by
    rw [List.findSome?_eq_none_iff]
    intro entry hentry
    unfold Ending.stop?
    rw [hcalls entry hentry]
    rfl
  rw [calledNodes_of_not_stops hcalls]
  unfold NodeRuns.ending NodeRuns.after endingOfNodes
  generalize candidates nodes = results at hresults ⊢
  generalize nodes.findSome? (·.2.message?) = ignored at hignored ⊢
  cases results <;> cases ignored <;>
    simp only [hresults, hignored, hstopped, List.nil_append, Option.none_or]

/-- How the call for a service of a cluster ends that is checked node by
node, if there are nodes with data and none of them stops the others. -/
private theorem checkService_of_calm {state : CheckState}
    {nodes : SortedMap HostName SectionData} {info : Option CacheInfo}
    (hdata : t.dataFor env service plugin = .ok ⟨.cluster nodes, info⟩)
    (hmode : (env.clusterMode t.host service.description).perNode = true)
    (hcalm : ∀ node ∈ t.nodeEndings env service plugin state.store,
      node.2.stops = false) :
    let ending := endingOfNodes (env.clusterMode t.host service.description)
      (t.nodeEndings env service plugin state.store)
    t.ending? env service plugin state.store = some ending
      ∧ t.checkService env service plugin state = t.conclude env service
          (callFor env service plugin ⟨.cluster nodes, info⟩) info ending
          (t.called env service plugin ⟨.cluster nodes, info⟩ state) := by
  obtain ⟨call, hcall⟩ : ∃ call,
      callFor env service plugin ⟨.cluster nodes, info⟩ = .cluster call :=
    ⟨_, rfl⟩
  have hendings : t.nodeEndings env service plugin state.store
      = call.nodes.entries.map fun entry =>
          (entry.1,
            (plugin.runOn call (t.current service) state.store
              entry).ending) := by
    unfold nodeEndings
    rw [hdata]
    simp only [hcall]
  have hinvoked : (t.invoke env service plugin
      (callFor env service plugin ⟨.cluster nodes, info⟩) state.store).ending
        = endingOfNodes (env.clusterMode t.host service.description)
            (t.nodeEndings env service plugin state.store) := by
    rw [hcall]
    unfold invoke
    simp only
    rw [CheckPlugin.invokeCluster_perNode hmode
      (hasContent_of_callFor hdata hcall)]
    exact ending_of_calm hendings hcalm
  constructor
  · rw [ending?_of_data hdata, hinvoked]
  · rw [checkService_of_data hdata, hinvoked]

-- ==================================================== the main statement

/-- What becomes of a service of a cluster that is checked node by node,
where no call stops the others. Without any node with data, no function
is called. Without any candidate, the first wish to be ignored counts,
and if there is none the item was not found. Otherwise one candidate is
picked by the mode, and state and metrics of the result are its own, but
for the warning that a second candidate is worth in a failover cluster. -/
theorem mode_decides_state (t : Topology) (env : CheckEnvironment)
    (service : Service) (plugin : CheckPlugin) (state : CheckState)
    (hcluster : t.isCluster = true)
    (hmode : (env.clusterMode t.host service.description).perNode = true)
    (hcalm : ∀ node ∈ t.nodeEndings env service plugin state.store,
      node.2.stops = false) :
    let mode := env.clusterMode t.host service.description
    let nodes := t.nodeEndings env service plugin state.store
    let outcome := (t.checkService env service plugin state).1
    let info := t.cacheInfoFor env service plugin
    (nodes = [] → t.checkService env service plugin state =
        (.ok (.noData service (.clusterReceivedNoData
          (t.owningNodes service.description env.effectiveHost))), state))
      ∧ (nodes ≠ [] → candidates nodes = [] → outcome = .ok (
          match nodes.findSome? (·.2.message?) with
          | some message => .ignored service message
          | none => .finished service .itemNotFound info))
      ∧ (candidates nodes ≠ [] → ∃ before chosen after labelled,
          let outputs := labelled ++ (before ++ after).map (mentionNode mode)
          let result := ServiceResult.ofOutputs outputs
          candidates nodes = before ++ chosen :: after
            ∧ mode.Picks before chosen after
            ∧ NamesNode chosen.node chosen.outputs labelled
            ∧ t.ending? env service plugin state.store = some (.yielded outputs)
            ∧ outcome = .ok (.finished service result info)
            ∧ result.metrics = CheckOutput.metrics chosen.outputs
            ∧ result.state =
                if mode = .failover ∧ 2 ≤ (candidates nodes).length then
                  chosen.state.worst .warn
                else chosen.state) := by
  rcases dataFor_of_isCluster env service plugin hcluster with
    hdata | ⟨nodes, info, hdata, hentries⟩
  · have hnone : t.nodeEndings env service plugin state.store = [] := by
      unfold nodeEndings
      rw [hdata]
    simp only [hnone]
    exact ⟨fun _ => checkService_of_noData hdata state,
      fun hne => absurd rfl hne, fun hne => absurd rfl hne⟩
  · have hsome : t.nodeEndings env service plugin state.store ≠ [] := by
      unfold nodeEndings
      rw [hdata]
      exact fun hnil => hentries (List.map_eq_nil_iff.mp hnil)
    have hinfo : t.cacheInfoFor env service plugin = info := by
      unfold cacheInfoFor
      rw [hdata]
    obtain ⟨hending, hcheck⟩ := checkService_of_calm hdata hmode hcalm
    refine ⟨fun hnil => absurd hnil hsome, fun _ hnil => ?_, fun hne => ?_⟩
    · rw [hcheck, hinfo, endingOfNodes_of_no_candidates hnil]
      -- no outputs at all are an item that was not found
      generalize List.findSome? _ _ = ignored
      cases ignored with
      | some message => rfl
      | none => rfl
    · obtain ⟨before, chosen, after, labelled, hsplit, hpicks, hnames,
        hyields, hresult⟩ := endingOfNodes_of_candidates
          (env.clusterMode t.host service.description) hne
      refine ⟨before, chosen, after, labelled, hsplit, hpicks, hnames,
        ?_, ?_, hresult⟩
      · rw [hending, hyields]
      · rw [hcheck, hyields, hinfo]
        rfl

/-- A plugin for a section that is fine with whatever it is given. -/
def contentPlugin (wanted : ParsedName) : CheckPlugin where
  name := "load"
  sections := [wanted]
  function _ _ values := { ending := .yielded [.ofSummary .ok "fine"], values }

/-- Two nodes that are equally fine: the first one is picked, and the
second one is a warning. -/
theorem mode_decides_state_failover_tie :
    let env := pairEnvironment .failover
    let plugin := contentPlugin "load"
    let nodes := pairTopology.nodeEndings env loadService plugin ∅
    (∀ node ∈ nodes, node.2.stops = false)
      ∧ (candidates nodes).map (·.node) = ["alpha", "beta"]
      ∧ ∃ before chosen after result info,
        candidates nodes = before ++ chosen :: after
          ∧ ClusterMode.failover.Picks before chosen after
          ∧ (pairTopology.checkService env loadService plugin {}).1
              = .ok (.finished loadService result info)
          ∧ result.metrics = CheckOutput.metrics chosen.outputs
          ∧ result.state = chosen.state.worst .warn := by
  intro env plugin nodes
  have hcalm : ∀ node ∈ nodes, node.2.stops = false := by decide +kernel
  have hnames : (candidates nodes).map (·.node) = ["alpha", "beta"] := by
    decide +kernel
  have htwo : 2 ≤ (candidates nodes).length := by
    rw [← List.length_map (f := (·.node)), hnames]
    decide
  obtain ⟨-, -, hpicked⟩ :=
    mode_decides_state pairTopology env loadService plugin {} rfl rfl hcalm
  obtain ⟨before, chosen, after, labelled, hsplit, hpicks, -, -, houtcome,
    hmetrics, hstate⟩ := hpicked fun hnil => by
      rw [show candidates nodes = [] from hnil] at hnames
      cases hnames
  rw [if_pos ⟨rfl, htwo⟩] at hstate
  exact ⟨hcalm, hnames, before, chosen, after, _, _, hsplit, hpicks,
    houtcome, hmetrics, hstate⟩

/-- A cluster whose nodes have no data is not one in whose data the item
is missing: no call stops, none yields anything and none asks to be
ignored, and yet the item is not said to be missing. -/
theorem no_data_is_not_missing_item :
    let env := pairEnvironment .worst
    let plugin := contentPlugin "disk"
    let nodes := pairTopology.nodeEndings env loadService plugin ∅
    (∀ node ∈ nodes, node.2.stops = false)
      ∧ candidates nodes = []
      ∧ nodes.findSome? (·.2.message?) = none
      ∧ ∀ info, (pairTopology.checkService env loadService plugin {}).1
          ≠ .ok (.finished loadService .itemNotFound info) := by
  intro env plugin nodes
  refine ⟨by decide +kernel, by decide +kernel, by decide +kernel,
    fun info h => ?_⟩
  have hsubmit : (pairTopology.checkService env loadService
      plugin {}).1.toOption.map (·.submit) = some false := by decide +kernel
  rw [h] at hsubmit
  cases hsubmit

end Topology

end HostWatch
