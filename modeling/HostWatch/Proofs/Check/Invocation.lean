/-
What the call for a service reads and writes.

`copies` lists the namespaces that a call opens, each with the working
copy that is put back; the list is the whole effect of the call on the
store, in every mode and for every ending (`invoke_store`). All of them
belong to the service (`copies_owned`), none is opened twice
(`copies_nodup`), and what is in them depends on nothing but what the
store holds for the service (`copies_congr`). The same goes for the ending
(`invoke_congr`).

Everything said later about what one check can do to another rests on
these; nothing after this file looks into a mode again to learn what it
writes.
-/
import HostWatch.Proofs.Check.Nodes
import HostWatch.Proofs.Check.Resolution

namespace HostWatch

/-- Whether a mode calls the function for hosts once for each node. -/
def ClusterMode.perNode : ClusterMode → Bool
  | .native | .merge => false
  | .worst | .best | .failover => true

/-- The arguments of the call on the merged sections of all nodes. -/
def ClusterCall.merged (call : ClusterCall) : CheckCall :=
  { item := call.item, params := call.params,
    sections := mergeSections call.nodes.values }

-- ==================================================== node by node

/-- The call for a service whose nodes are checked one by one, in closed
form. -/
theorem CheckPlugin.invokeCluster_perNode {plugin : CheckPlugin}
    {mode : ClusterMode} {call : ClusterCall} {service : CurrentService}
    {store : ValueStore}
    (hmode : mode.perNode = true)
    (hcontent : ∀ entry ∈ call.nodes.entries, entry.2.hasContent = true) :
    plugin.invokeCluster mode call service store =
      let run := plugin.runOn call service store
      let runs := NodeRuns.after plugin call service run { store := store }
        (calledNodes run call.nodes.entries)
      { ending := runs.ending mode
        store := runs.store.commit service.namespaceKey
          (store.workingCopy service.namespaceKey)
        calls := runs.calls
        cancels := runs.cancels } := by
  have hloop := NodeRuns.addAll_eq plugin call service store call.nodes.entries
    { store := store } call.nodes.keys_nodup hcontent rfl (fun _ _ => rfl)
  cases mode with
  | native => cases hmode
  | merge => cases hmode
  | worst | best | failover =>
      unfold CheckPlugin.invokeCluster
      simp only [hloop]

namespace Topology

-- ==================================================== the opened namespaces

/-- The namespaces that the call for a service opens, each with the working
copy that is put back, in the order in which they are put back. -/
def copies (t : Topology) (env : CheckEnvironment) (service : Service)
    (plugin : CheckPlugin) (call : AnyCall)
    (store : ValueStore) : List (NamespaceKey × Namespace) :=
  let current := t.current service
  let own := current.namespaceKey
  match call with
  | .host call =>
    [(own, (plugin.function call current (store.workingCopy own)).values)]
  | .cluster call =>
    match env.clusterMode t.host service.description with
    | .native =>
      match plugin.clusterFunction with
      | some function =>
        [(own, (function call current (store.workingCopy own)).values)]
      | none => [(own, store.workingCopy own)]
    | .merge =>
      [(own,
        (plugin.function call.merged current (store.workingCopy own)).values)]
    | .worst | .best | .failover =>
      let run := plugin.runOn call current store
      nodeCopies run current (calledNodes run call.nodes.entries)
        ++ [(own, store.workingCopy own)]

variable {t : Topology} {env : CheckEnvironment} {service : Service}
    {plugin : CheckPlugin}

/-- Every node that a service's function is called for has a value for
some section. -/
theorem hasContent_of_callFor {data : ServiceData} {call : ClusterCall}
    (hdata : t.dataFor env service plugin = .ok data)
    (hcall : callFor env service plugin data = .cluster call) :
    ∀ entry ∈ call.nodes.entries, entry.2.hasContent = true := by
  obtain ⟨sections, info⟩ := data
  cases sections with
  | host sections => cases hcall
  | cluster nodes =>
      injection hcall with hcall
      subst hcall
      exact hasContent_of_dataFor hdata

/-- The effect of a call on the store: the opened namespaces are put
back, and that is all. -/
theorem invoke_store {data : ServiceData}
    (hdata : t.dataFor env service plugin = .ok data)
    (store : ValueStore) :
    (t.invoke env service plugin (callFor env service plugin data) store).store
      = store.commitAll
          (t.copies env service plugin (callFor env service plugin data)
            store) := by
  cases hcall : callFor env service plugin data with
  | host call => rfl
  | cluster call =>
      have hcontent := hasContent_of_callFor hdata hcall
      unfold invoke copies
      cases hmode : env.clusterMode t.host service.description with
      | native =>
          unfold CheckPlugin.invokeCluster CheckPlugin.invokeNative
          cases plugin.clusterFunction <;> rfl
      | merge => rfl
      | worst | best | failover =>
          simp only
          rw [CheckPlugin.invokeCluster_perNode rfl hcontent,
            ValueStore.commitAll_append]
          rfl

/-- A node's namespace belongs to the service. -/
private theorem mem_nodeCopies {run : HostName × SectionData → CheckRun}
    {current : CurrentService} {entries : List (HostName × SectionData)}
    {copy : NamespaceKey × Namespace}
    (h : copy ∈ nodeCopies run current entries) :
    ∃ entry ∈ entries,
      copy = (current.namespaceKey.withNode entry.1, (run entry).values) := by
  obtain ⟨entry, hmem, hcopy⟩ := List.mem_map.mp h
  exact ⟨entry, hmem, hcopy.symm⟩

/-- A call opens namespaces of its own service only. -/
theorem copies_owned {call : AnyCall} {store : ValueStore}
    {copy : NamespaceKey × Namespace}
    (h : copy ∈ t.copies env service plugin call store) :
    ValueStore.Owns t.host service.id copy.1 := by
  have own : ∀ {values}, copy ∈ [((t.current service).namespaceKey, values)] →
      ValueStore.Owns t.host service.id copy.1 := by
    intro values hmem
    rw [List.mem_singleton.mp hmem]
    exact ⟨rfl, rfl⟩
  unfold copies at h
  cases call with
  | host call => exact own h
  | cluster call =>
      simp only at h
      cases hmode : env.clusterMode t.host service.description with
      | native =>
          rw [hmode] at h
          cases hfun : plugin.clusterFunction with
          | some function => rw [hfun] at h; exact own h
          | none => rw [hfun] at h; exact own h
      | merge => rw [hmode] at h; exact own h
      | worst | best | failover =>
          rw [hmode] at h
          rcases List.mem_append.mp h with h | h
          · obtain ⟨entry, -, rfl⟩ := mem_nodeCopies h
            exact ⟨rfl, rfl⟩
          · exact own h

/-- The namespace of a node is not that of the service itself. -/
theorem withNode_ne (current : CurrentService) (node : HostName) :
    current.namespaceKey.withNode node ≠ current.namespaceKey := by
  intro h
  injection h with _ _ hnode
  cases hnode

/-- The namespaces of different nodes are different. -/
theorem withNode_inj {key : NamespaceKey} {node node' : HostName}
    (h : key.withNode node = key.withNode node') : node = node' := by
  injection h with _ _ hnode
  injection hnode

/-- The namespaces of the called nodes are pairwise different. -/
theorem nodeCopies_nodup {run : HostName × SectionData → CheckRun}
    {current : CurrentService} {nodes : SortedMap HostName SectionData} :
    ((nodeCopies run current (calledNodes run nodes.entries)).map
      (·.1)).Nodup := by
  have hcalled : ((calledNodes run nodes.entries).map (·.1)).Nodup :=
    List.Nodup.sublist
      ((calledNodes_initial run nodes.entries).sublist.map _) nodes.keys_nodup
  unfold nodeCopies
  rw [List.map_map]
  unfold List.Nodup at hcalled ⊢
  rw [List.pairwise_map] at hcalled ⊢
  exact hcalled.imp fun hne heq => hne (withNode_inj heq)

/-- No namespace is opened twice. -/
theorem copies_nodup {call : AnyCall} {store : ValueStore} :
    ((t.copies env service plugin call store).map (·.1)).Nodup := by
  unfold copies
  cases call with
  | host call => exact List.pairwise_singleton _ _
  | cluster call =>
      simp only
      cases hmode : env.clusterMode t.host service.description with
      | native =>
          cases plugin.clusterFunction <;> exact List.pairwise_singleton _ _
      | merge => exact List.pairwise_singleton _ _
      | worst | best | failover =>
          simp only [List.map_append, List.map_cons, List.map_nil]
          rw [List.nodup_append]
          refine ⟨nodeCopies_nodup, List.pairwise_singleton _ _, ?_⟩
          intro key hkey key' hkey' heq
          rw [List.mem_singleton.mp hkey'] at heq
          obtain ⟨copy, hcopy, rfl⟩ := List.mem_map.mp hkey
          obtain ⟨entry, -, rfl⟩ := mem_nodeCopies hcopy
          exact withNode_ne _ _ heq

-- ==================================================== two stores

/-- What a call puts back depends on what the store holds for the service. -/
theorem copies_congr {call : AnyCall} {s s' : ValueStore}
    (h : ValueStore.AgreeFor t.host service.id s s') :
    t.copies env service plugin call s
      = t.copies env service plugin call s' := by
  have hown : s.workingCopy (t.current service).namespaceKey
      = s'.workingCopy (t.current service).namespaceKey :=
    ValueStore.workingCopy_congr (h _ ⟨rfl, rfl⟩)
  have hrun : ∀ call, plugin.runOn call (t.current service) s
      = plugin.runOn call (t.current service) s' :=
    fun _ => CheckPlugin.runOn_congr h
  unfold copies
  simp only [hown, hrun]

/-- How a call ends, and whether it breaks the run off, depends on what the
store holds for the service. -/
theorem invoke_congr {data : ServiceData} {s s' : ValueStore}
    (hdata : t.dataFor env service plugin = .ok data)
    (h : ValueStore.AgreeFor t.host service.id s s') :
    let call := callFor env service plugin data
    (t.invoke env service plugin call s).ending
        = (t.invoke env service plugin call s').ending
      ∧ (t.invoke env service plugin call s).cancels
        = (t.invoke env service plugin call s').cancels := by
  have hown : s.workingCopy (t.current service).namespaceKey
      = s'.workingCopy (t.current service).namespaceKey :=
    ValueStore.workingCopy_congr (h _ ⟨rfl, rfl⟩)
  cases hcall : callFor env service plugin data with
  | host call =>
      unfold invoke
      simp only [CheckPlugin.invoke_eq, hown, and_self]
  | cluster call =>
      have hcontent := hasContent_of_callFor hdata hcall
      have hrun : plugin.runOn call (t.current service) s
          = plugin.runOn call (t.current service) s' :=
        CheckPlugin.runOn_congr h
      unfold invoke
      cases hmode : env.clusterMode t.host service.description with
      | native =>
          unfold CheckPlugin.invokeCluster CheckPlugin.invokeNative
          cases hfun : plugin.clusterFunction with
          | some function =>
              show (function call _ _).ending = (function call _ _).ending
                ∧ (function call _ _).cancels = (function call _ _).cancels
              rw [hown]
              exact ⟨rfl, rfl⟩
          | none => exact ⟨rfl, rfl⟩
      | merge =>
          unfold CheckPlugin.invokeCluster
          simp only [CheckPlugin.invoke_eq, hown, and_self]
      | worst | best | failover =>
          simp only
          rw [CheckPlugin.invokeCluster_perNode rfl hcontent,
            CheckPlugin.invokeCluster_perNode rfl hcontent, hrun]
          exact ⟨rfl, rfl⟩

end Topology

end HostWatch
