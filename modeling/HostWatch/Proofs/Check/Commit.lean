/-
What a check makes its service remember.

A check function works on a copy of what is stored, and the copy is put
back however the function ends. The main statement
(`check_commits_final_copies`) says what that comes to for the store as a
whole: nothing outside of the service's namespaces changes; a plain host
and a cluster that is checked as one keep exactly the function's final
copy under the service's own key; a cluster that is checked node by node
keeps the final copies of exactly the nodes that were called, and its own
namespace is what it was, although a copy of it was held open and put back
around all the calls.

That last point needs a store without empty namespaces: an empty one would
be dropped by being put back. No check leaves one behind, so a store that
starts without them stays without.
-/
import HostWatch.Proofs.Check.Service

namespace HostWatch

/-- `after` is `before` with a working copy put back under `key`, and
nothing else changed. -/
def ValueStore.Replaces (before after : ValueStore) (key : NamespaceKey)
    (values : Namespace) : Prop :=
  ∀ key', after.get? key'
    = if key' = key then values.stored else before.get? key'

namespace Topology

/-- What the call for a service does to what is stored. On a plain host,
and on a cluster with the plugin's own function or with merged sections,
one function is called, and its final copy takes the place of the
service's namespace. Node by node, each called node's namespace holds
the final copy of its call, and all others are as before, the service's
own included. -/
def CommitsCall (t : Topology) (env : CheckEnvironment) (service : Service)
    (plugin : CheckPlugin) (call : AnyCall)
    (before after : CheckState) : Prop :=
  let current := t.current service
  let own := current.namespaceKey
  let opened := before.store.workingCopy own
  match call with
  | .host call =>
    before.store.Replaces after.store own
      (plugin.function call current opened).values
  | .cluster call =>
    match env.clusterMode t.host service.description with
    | .native =>
      match plugin.clusterFunction with
      | some function =>
        before.store.Replaces after.store own
          (function call current opened).values
      | none => after.store = before.store
    | .merge =>
      before.store.Replaces after.store own
        (plugin.function call.merged current opened).values
    | .worst | .best | .failover =>
      let run := plugin.runOn call current before.store
      let called := calledNodes run call.nodes.entries
      after.calls = before.calls ++ called.map (plugin.callOn call current)
        ∧ after.store.get? own = before.store.get? own
        ∧ ∀ node, after.store.get? (own.withNode node) =
            match called.find? fun entry => entry.1 == node with
            | some entry => (run entry).values.stored
            | none => before.store.get? (own.withNode node)

/-- What the check of a service does to what is stored: nothing without
data, and else what the call does. -/
def Commits (t : Topology) (env : CheckEnvironment) (service : Service)
    (plugin : CheckPlugin) (before after : CheckState) : Prop :=
  match t.dataFor env service plugin with
  | .error _ => after.store = before.store
  | .ok data =>
    t.CommitsCall env service plugin (callFor env service plugin data)
      before after

variable {t : Topology} {env : CheckEnvironment} {service : Service}
    {plugin : CheckPlugin}

-- ==================================================== node by node

/-- The calls of a service that is checked node by node are those on the
called nodes. -/
private theorem calls_perNode {data : ServiceData} {call : ClusterCall}
    {state : CheckState}
    (hdata : t.dataFor env service plugin = .ok data)
    (hcall : callFor env service plugin data = .cluster call)
    (hmode : (env.clusterMode t.host service.description).perNode = true) :
    (t.checkService env service plugin state).2.calls = state.calls ++
      (calledNodes (plugin.runOn call (t.current service) state.store)
        call.nodes.entries).map (plugin.callOn call (t.current service)) := by
  have hcontent := hasContent_of_callFor hdata hcall
  rw [checkService_of_data hdata, conclude_keeps.2.1]
  unfold called invoke
  rw [hcall]
  simp only
  rw [CheckPlugin.invokeCluster_perNode hmode hcontent]
  rfl

/-- The namespace of a node after the called nodes' copies have been put
back, and the service's own with them. -/
private theorem get?_node_commitAll {run : HostName × SectionData → CheckRun}
    {current : CurrentService} {nodes : SortedMap HostName SectionData}
    {store : ValueStore} {values : Namespace}
    (hnodup : ((nodeCopies run current (calledNodes run nodes.entries)
      ++ [(current.namespaceKey, values)]).map (·.1)).Nodup)
    (node : HostName) :
    (store.commitAll (nodeCopies run current (calledNodes run nodes.entries)
        ++ [(current.namespaceKey, values)])).get?
        (current.namespaceKey.withNode node)
      = match (calledNodes run nodes.entries).find? (·.1 == node) with
        | some entry => (run entry).values.stored
        | none => store.get? (current.namespaceKey.withNode node) := by
  cases hfind : (calledNodes run nodes.entries).find? (·.1 == node) with
  | some entry =>
      have hnode : entry.1 = node := by simpa using List.find?_some hfind
      refine ValueStore.get?_commitAll_of_mem hnodup (List.mem_append_left _ ?_)
      exact List.mem_map.mpr
        ⟨entry, List.mem_of_find?_eq_some hfind, by rw [hnode]⟩
  | none =>
      refine ValueStore.get?_commitAll_of_not_mem fun hmem => ?_
      rw [List.map_append, List.mem_append] at hmem
      rcases hmem with hmem | hmem
      · obtain ⟨copy, hcopy, hkey⟩ := List.mem_map.mp hmem
        obtain ⟨entry, hentry, rfl⟩ := List.mem_map.mp hcopy
        have hne := List.find?_eq_none.mp hfind entry hentry
        exact hne (by simpa using withNode_inj hkey)
      · exact withNode_ne _ _ (List.mem_singleton.mp hmem)

-- ==================================================== the main statement

/-- One copy that is put back replaces one namespace. -/
private theorem replaces_commitAll (store : ValueStore) (key : NamespaceKey)
    (values : Namespace) :
    store.Replaces (store.commitAll [(key, values)]) key values :=
  fun key' => store.get?_commit key key' values

/-- Putting the opened namespaces back is what a call is said to do. -/
private theorem commitsCall {call : AnyCall} {before after : CheckState}
    (hstore : before.store.Compact)
    (heffect : after.store
      = before.store.commitAll (t.copies env service plugin call before.store))
    (hcalls : ∀ nodeCall, call = .cluster nodeCall →
      (env.clusterMode t.host service.description).perNode = true →
      after.calls = before.calls ++
        (calledNodes (plugin.runOn nodeCall (t.current service) before.store)
          nodeCall.nodes.entries).map
          (plugin.callOn nodeCall (t.current service))) :
    t.CommitsCall env service plugin call before after := by
  have hnodup :
    ((t.copies env service plugin call before.store).map (·.1)).Nodup :=
    copies_nodup
  unfold CommitsCall
  cases call with
  | host call =>
      simp only
      rw [heffect]
      exact replaces_commitAll _ _ _
  | cluster call =>
      unfold copies at heffect hnodup
      cases hmode : env.clusterMode t.host service.description with
      | native =>
          simp only [hmode] at heffect ⊢
          cases hfun : plugin.clusterFunction with
          | some function =>
              simp only [hfun] at heffect ⊢
              rw [heffect]
              exact replaces_commitAll _ _ _
          | none =>
              simp only [hfun] at heffect ⊢
              rw [heffect]
              exact ValueStore.commit_workingCopy hstore _
      | merge =>
          simp only [hmode] at heffect ⊢
          rw [heffect]
          exact replaces_commitAll _ _ _
      | worst | best | failover =>
          simp only [hmode] at heffect hnodup ⊢
          refine ⟨hcalls call rfl (by rw [hmode]; rfl), ?_, ?_⟩
          · rw [heffect, ValueStore.get?_commitAll_of_mem hnodup
              (List.mem_append_right _ (List.mem_singleton.mpr rfl)),
              ValueStore.stored_workingCopy hstore]
          · intro node
            rw [heffect]
            exact get?_node_commitAll hnodup node

/-- After the check of a service, on every topology, in every mode and
for every ending, the store holds the final copies of the functions that
were called, and everything else as before. -/
theorem check_commits_final_copies (t : Topology) (env : CheckEnvironment)
    (service : Service) (plugin : CheckPlugin) (state : CheckState)
    (hstore : state.store.Compact) :
    let after := (t.checkService env service plugin state).2
    t.Commits env service plugin state after
      ∧ (∀ key, ¬ ValueStore.Owns t.host service.id key →
          after.store.get? key = state.store.get? key)
      ∧ after.store.Compact := by
  refine ⟨?_, fun key hkey => checkService_frame hkey,
    checkService_compact hstore⟩
  unfold Commits
  cases hdata : t.dataFor env service plugin with
  | error result =>
      simp only
      rw [checkService_of_noData hdata]
  | ok data =>
      exact commitsCall hstore (checkService_store hdata state)
        fun call hcall hmode => calls_perNode hdata hcall hmode

/-- A plugin that remembers that it was called, and fails where the load
is 2. -/
def failingPlugin : CheckPlugin where
  name := "load"
  sections := ["load"]
  function call _ values :=
    { ending :=
        match call.sections.section? "load" with
        | some (.list [.list [.text "2"]]) => .failed "too high"
        | _ => .yielded [.ofSummary .ok "fine"]
      values := values.insert "called" (.bool true) }

/-- A store in which the service of the cluster has remembered something
itself. -/
def pairStore : ValueStore :=
  (∅ : ValueStore).commit (pairTopology.current loadService).namespaceKey
    (SortedMap.ofList [("since", .int 7)])

/-- The second node fails, and yet both nodes' copies are kept, and the
cluster's own is untouched. -/
theorem check_commits_final_copies_failing_node :
    let env := pairEnvironment .worst
    let before : CheckState := { store := pairStore }
    let after :=
      (pairTopology.checkService env loadService failingPlugin before).2
    before.store.Compact
      ∧ pairTopology.Commits env loadService failingPlugin before after
      ∧ after.store.Compact
      ∧ after.store.namespaces.keys.map (·.node)
        = [none, some "alpha", some "beta"] := by
  intro env before after
  have hstore : before.store.Compact :=
    ValueStore.Compact.commit (fun key values h => by cases h) _ _
  obtain ⟨hcommits, -, hcompact⟩ := check_commits_final_copies pairTopology env
    loadService failingPlugin before hstore
  exact ⟨hstore, hcommits, hcompact, by decide +kernel⟩

end Topology

end HostWatch
