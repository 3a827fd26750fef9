/-
Checking the nodes of a cluster one by one, in closed form.

The loop over the nodes threads a record of six parts, the store among
them. What each part is at the end can be said without the loop: the
nodes that are called are those up to the first one whose call stops the
rest (`calledNodes`), each call is made on what was stored before the loop
began (`runOn`), and every part of the record is one walk over the called
nodes (`addAll_eq`).

That a call sees the store of before the loop, and not of the turn before,
is where the namespaces of their own come in: the nodes of a map have
pairwise different names, so no turn writes what a later turn reads. The
same argument gives `runOn_congr`: two stores that agree for the service
give the same calls, whatever else they hold.
-/
import HostWatch.Check.Cluster
import HostWatch.Proofs.ValueStore

namespace HostWatch

-- ==================================================== one ending

namespace Ending

/-- Whether an ending keeps the nodes after it from being checked. -/
def stops : Ending → Bool
  | .yielded _ | .ignored _ => false
  | .timedOut | .failed _ | .crashed _ => true

/-- The ending itself, if it keeps the nodes after it from being checked. -/
def stop? (ending : Ending) : Option Ending :=
  if ending.stops then some ending else none

/-- The message of an ending that asks for its results to be ignored. -/
def message? : Ending → Option (Option String)
  | .ignored message => some message
  | _ => none

/-- The results of a node whose call has come to some. -/
def result? (node : HostName) : Ending → Option NodeResult
  | .yielded outputs =>
    (CheckOutput.worstState? outputs).map (⟨node, outputs, ·⟩)
  | _ => none

end Ending

-- ==================================================== one node

/-- The arguments of the call on a node. -/
def ClusterCall.onNode (call : ClusterCall) (sections : SectionData) :
    CheckCall :=
  { item := call.item, params := call.params, sections }

/-- What the call on a node leaves behind, made on the values that are
stored for the node. -/
def CheckPlugin.runOn (plugin : CheckPlugin) (call : ClusterCall)
    (service : CurrentService) (store : ValueStore)
    (entry : HostName × SectionData) : CheckRun :=
  plugin.function (call.onNode entry.2) service
    (store.workingCopy (service.namespaceKey.withNode entry.1))

/-- The record that a call on a node makes. -/
def CheckPlugin.callOn (plugin : CheckPlugin) (call : ClusterCall)
    (service : CurrentService) (entry : HostName × SectionData) : Invocation :=
  ⟨plugin.declaredAs, service, .host (call.onNode entry.2)⟩

/-- A call on a node reads what is stored for that node of the service. -/
theorem CheckPlugin.runOn_eq {plugin : CheckPlugin} {call : ClusterCall}
    {service : CurrentService} {s s' : ValueStore}
    {entry : HostName × SectionData}
    (h : s.get? (service.namespaceKey.withNode entry.1)
      = s'.get? (service.namespaceKey.withNode entry.1)) :
    plugin.runOn call service s entry = plugin.runOn call service s' entry := by
  unfold runOn
  rw [ValueStore.workingCopy_congr h]

/-- Stores that agree for a service make no difference to its calls on
nodes. -/
theorem CheckPlugin.runOn_congr {plugin : CheckPlugin} {call : ClusterCall}
    {service : CurrentService} {s s' : ValueStore}
    (h : ValueStore.AgreeFor service.host service.id s s') :
    plugin.runOn call service s = plugin.runOn call service s' :=
  funext fun _ => runOn_eq (h _ ⟨rfl, rfl⟩)

/-- A call of the function for hosts, part by part. -/
theorem CheckPlugin.invoke_eq (plugin : CheckPlugin) (call : CheckCall)
    (service : CurrentService) (key : NamespaceKey) (store : ValueStore) :
    plugin.invoke call service key store =
      let run := plugin.function call service (store.workingCopy key)
      { ending := run.ending
        store := store.commit key run.values
        calls := [⟨plugin.declaredAs, service, .host call⟩]
        cancels := run.cancels } := rfl

-- ==================================================== the whole loop

/-- The nodes that are called: in order, up to and including the first one
whose call keeps the others from being made. -/
def calledNodes (run : HostName × SectionData → CheckRun) :
    List (HostName × SectionData) → List (HostName × SectionData)
  | [] => []
  | entry :: rest =>
    if (run entry).ending.stops then [entry] else entry :: calledNodes run rest

/-- The working copies that the calls on some nodes leave behind. -/
def nodeCopies (run : HostName × SectionData → CheckRun)
    (service : CurrentService) (entries : List (HostName × SectionData)) :
    List (NamespaceKey × Namespace) :=
  entries.map fun entry =>
    (service.namespaceKey.withNode entry.1, (run entry).values)

/-- A node is called if no node before it stops the loop. -/
theorem calledNodes_of_not_stops {run : HostName × SectionData → CheckRun}
    {entries : List (HostName × SectionData)}
    (h : ∀ entry ∈ entries, (run entry).ending.stops = false) :
    calledNodes run entries = entries := by
  induction entries with
  | nil => rfl
  | cons entry rest ih =>
      unfold calledNodes
      rw [h entry (List.mem_cons_self ..), if_neg (by decide),
        ih fun e he => h e (List.mem_cons_of_mem _ he)]

/-- The called nodes are the first ones. -/
theorem calledNodes_initial (run : HostName × SectionData → CheckRun)
    (entries : List (HostName × SectionData)) :
    calledNodes run entries <+: entries := by
  induction entries with
  | nil => exact List.prefix_rfl
  | cons entry rest ih =>
      unfold calledNodes
      split
      · exact List.cons_prefix_cons.mpr ⟨rfl, List.nil_prefix⟩
      · exact List.cons_prefix_cons.mpr ⟨rfl, ih⟩

/-- What some calls add to the record of the loop, each made on the values
that `run` was given. -/
def NodeRuns.after (plugin : CheckPlugin) (call : ClusterCall)
    (service : CurrentService) (run : HostName × SectionData → CheckRun)
    (runs : NodeRuns) (called : List (HostName × SectionData)) : NodeRuns where
  results := runs.results
    ++ called.filterMap fun e => (run e).ending.result? e.1
  ignored := runs.ignored.or (called.findSome? fun e => (run e).ending.message?)
  stopped := runs.stopped.or (called.findSome? fun e => (run e).ending.stop?)
  store := runs.store.commitAll (nodeCopies run service called)
  calls := runs.calls ++ called.map (plugin.callOn call service)
  cancels := runs.cancels || called.any fun e => (run e).cancels

/-- Without calls the record stays as it is. -/
private theorem NodeRuns.after_nil {plugin : CheckPlugin} {call : ClusterCall}
    {service : CurrentService} {run : HostName × SectionData → CheckRun}
    {runs : NodeRuns} :
    runs.after plugin call service run [] = runs := by
  unfold NodeRuns.after nodeCopies
  simp [ValueStore.commitAll]

/-- The images of a list, that of its head apart. -/
theorem filterMap_cons_toList {α β : Type _} (f : α → Option β) (a : α)
    (l : List α) :
    (a :: l).filterMap f = (f a).toList ++ l.filterMap f := by
  rw [List.filterMap_cons]
  cases f a <;> rfl

/-- The first image of a list, that of its head apart. -/
private theorem findSome?_cons_or {α β : Type _} (f : α → Option β) (a : α)
    (l : List α) :
    (a :: l).findSome? f = (f a).or (l.findSome? f) := by
  rw [List.findSome?_cons]
  cases f a <;> rfl

/-- What one call adds to the record, part by part. -/
theorem NodeRuns.after_singleton {plugin : CheckPlugin}
    {call : ClusterCall} {service : CurrentService}
    {run : HostName × SectionData → CheckRun} {runs : NodeRuns}
    {entry : HostName × SectionData} :
    runs.after plugin call service run [entry] =
      { results := runs.results ++ ((run entry).ending.result? entry.1).toList
        ignored := runs.ignored.or (run entry).ending.message?
        stopped := runs.stopped.or (run entry).ending.stop?
        store := runs.store.commit (service.namespaceKey.withNode entry.1)
          (run entry).values
        calls := runs.calls ++ [plugin.callOn call service entry]
        cancels := runs.cancels || (run entry).cancels } := by
  unfold NodeRuns.after
  simp only [filterMap_cons_toList, findSome?_cons_or, List.filterMap_nil,
    List.append_nil, List.findSome?_nil, Option.or_none, List.map_cons,
    List.map_nil, List.any_cons, List.any_nil, Bool.or_false]
  rfl

/-- A first call can be added to the record before the others. -/
private theorem NodeRuns.after_cons {plugin : CheckPlugin} {call : ClusterCall}
    {service : CurrentService} {run : HostName × SectionData → CheckRun}
    {runs : NodeRuns} {entry : HostName × SectionData}
    {rest : List (HostName × SectionData)} :
    runs.after plugin call service run (entry :: rest)
      = (runs.after plugin call service run [entry]).after
          plugin call service run rest := by
  rw [NodeRuns.after_singleton]
  unfold NodeRuns.after
  simp only [filterMap_cons_toList, findSome?_cons_or, List.append_assoc,
    Option.or_assoc,
    List.map_cons, List.any_cons, Bool.or_assoc, List.singleton_append]
  rfl

/-- One turn of the loop, on a record that nothing has stopped yet and a
store that holds for the node what `base` holds. -/
theorem NodeRuns.add_eq {plugin : CheckPlugin} {call : ClusterCall}
    {service : CurrentService} {base : ValueStore} {runs : NodeRuns}
    {entry : HostName × SectionData} (hstopped : runs.stopped = none)
    (hstore : runs.store.get? (service.namespaceKey.withNode entry.1)
      = base.get? (service.namespaceKey.withNode entry.1)) :
    runs.add plugin call service entry.1 entry.2
      = runs.after plugin call service (plugin.runOn call service base)
        [entry] := by
  rw [NodeRuns.after_singleton, ← CheckPlugin.runOn_eq hstore]
  unfold NodeRuns.add CheckPlugin.runOn CheckPlugin.callOn ClusterCall.onNode
  simp only [CheckPlugin.invoke_eq, hstopped]
  generalize plugin.function _ service _ = run
  obtain ⟨ending, values, cancels⟩ := run
  cases ending with
  | yielded outputs =>
      cases hstate : CheckOutput.worstState? outputs with
      | none =>
          simp [Ending.result?, Ending.message?, Ending.stop?, Ending.stops,
            hstate]
      | some state =>
          simp [Ending.result?, Ending.message?, Ending.stop?, Ending.stops,
            hstate]
  | ignored message | timedOut | failed message | crashed message =>
      simp [Ending.result?, Ending.message?, Ending.stop?, Ending.stops]

/-- The loop over nodes with pairwise different names and with data, in
closed form: the calls are those up to the first one that stops the loop,
all of them made on what was stored before it. -/
theorem NodeRuns.addAll_eq (plugin : CheckPlugin) (call : ClusterCall)
    (service : CurrentService) (base : ValueStore) :
    ∀ (entries : List (HostName × SectionData)) (runs : NodeRuns),
      (entries.map (·.1)).Nodup →
      (∀ entry ∈ entries, entry.2.hasContent = true) →
      runs.stopped = none →
      (∀ entry ∈ entries,
        runs.store.get? (service.namespaceKey.withNode entry.1)
        = base.get? (service.namespaceKey.withNode entry.1)) →
      runs.addAll plugin call service entries =
        runs.after plugin call service (plugin.runOn call service base)
          (calledNodes (plugin.runOn call service base) entries) := by
  intro entries
  induction entries with
  | nil => intro runs _ _ _ _; exact NodeRuns.after_nil.symm
  | cons entry rest ih =>
      intro runs hnodup hcontent hstopped hstore
      rw [List.map_cons, List.nodup_cons] at hnodup
      unfold NodeRuns.addAll calledNodes
      simp only [hcontent entry (List.mem_cons_self ..), Bool.not_true,
        Bool.false_eq_true, if_false,
        NodeRuns.add_eq hstopped (hstore entry (List.mem_cons_self ..))]
      cases hstops : (plugin.runOn call service base entry).ending.stops with
      | true =>
          have hstop :
            (runs.after plugin call service (plugin.runOn call service base)
              [entry]).stopped.isSome = true := by
            rw [NodeRuns.after_singleton]
            simp [hstopped, Ending.stop?, hstops]
          rw [if_pos hstop, if_pos rfl]
      | false =>
          have hstop :
            (runs.after plugin call service (plugin.runOn call service base)
              [entry]).stopped = none := by
            rw [NodeRuns.after_singleton]
            simp [hstopped, Ending.stop?, hstops]
          have hkeep : ∀ e ∈ rest, (runs.after plugin call service
              (plugin.runOn call service base) [entry]).store.get?
                (service.namespaceKey.withNode e.1)
              = base.get? (service.namespaceKey.withNode e.1) := by
            intro e he
            rw [NodeRuns.after_singleton,
              ← hstore e (List.mem_cons_of_mem _ he)]
            -- the turn wrote the namespace of another node
            have hne : e.1 ≠ entry.1 := fun heq =>
              hnodup.1 (heq ▸ List.mem_map_of_mem he)
            show (runs.store.commit _ _).get? _ = _
            rw [ValueStore.get?_commit, if_neg]
            intro hkey
            injection hkey with _ _ hnode
            injection hnode with hnode
            exact hne hnode
          rw [if_neg (by rw [hstop]; decide), if_neg (by decide)]
          have hrest :=
            ih _ hnodup.2 (fun e he => hcontent e (List.mem_cons_of_mem _ he))
            hstop hkeep
          exact hrest.trans NodeRuns.after_cons.symm

end HostWatch
