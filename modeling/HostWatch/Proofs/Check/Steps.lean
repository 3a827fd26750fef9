/-
The call for a service, step by step.

A call copies namespaces, calls functions and puts the copies back, one after
the other; on a cluster that is checked node by node a copy of the service's
own namespace is held around the copies of its nodes. `Steps` has these as
what remains to be done, so that something else may happen between two of
them, and `run_steps` says that without anything in between they are the call
itself: the same ending, the same store, the same calls in the same order.

What a call can do to others and others to it is read off its steps. They
open namespaces of the service only (`owned_steps`), all of which are put
back before the call has ended, in whichever way it ends (`closes_steps`), and
how they end and what they leave to the service depends on nothing but what is
stored for the service (`Owned.run_congr`).
-/
import HostWatch.Proofs.Check.Invocation
import HostWatch.Check.Invoke

namespace HostWatch

-- ==================================================== what remains

/-- What remains to be done of the call for a service. -/
inductive Steps where
  /-- Nothing but to give the key back. -/
  | ended (ending : Ending)
  /-- A namespace is copied. -/
  | copy (key : NamespaceKey) (next : Namespace → Steps)
  /-- A function is called, which leaves a run behind. -/
  | call (invocation : Invocation) (run : CheckRun) (next : Steps)
  /-- A working copy is put back. -/
  | putBack (key : NamespaceKey) (values : Namespace) (next : Steps)

namespace Steps

/-- The next step, with the keys of the copies that are open. -/
def step? : Steps → List NamespaceKey → CheckState →
    Option (Steps × List NamespaceKey × CheckState)
  | ended _, _, _ => none
  | copy key next, opened, state =>
    some (next (state.store.workingCopy key), key :: opened, state)
  | call invocation run next, opened, state =>
    some (next, opened,
      { state with
        calls := state.calls ++ [invocation]
        cancelled := state.cancelled || run.cancels })
  | putBack key values next, opened, state =>
    some (next, opened.erase key,
      { state with store := state.store.commit key values })

/-- All steps, with nothing in between. -/
def run : Steps → CheckState → Ending × CheckState
  | ended ending, state => (ending, state)
  | copy key next, state => (next (state.store.workingCopy key)).run state
  | call invocation run next, state =>
    next.run
      { state with
        calls := state.calls ++ [invocation]
        cancelled := state.cancelled || run.cancels }
  | putBack key values next, state =>
    next.run { state with store := state.store.commit key values }

/-- A function is called on a copy of a namespace, which is put back however it
ends. -/
def around (key : NamespaceKey) (invocation : Invocation)
    (function : Namespace → CheckRun) (next : Ending → Steps) : Steps :=
  .copy key fun values =>
    let run := function values
    .call invocation run (.putBack key run.values (next run.ending))

/-- The calls on the nodes that have data, up to the first one whose ending
stops the rest, and what is done with the endings. -/
def onNodes (plugin : CheckPlugin) (call : ClusterCall)
    (service : CurrentService) (finish : List (HostName × Ending) → Steps) :
    List (HostName × SectionData) → List (HostName × Ending) → Steps
  | [], endings => finish endings
  | (node, sections) :: rest, endings =>
    if !sections.hasContent then onNodes plugin call service finish rest endings
    else
      around (service.namespaceKey.withNode node)
        (plugin.callOn call service (node, sections))
        (plugin.function (call.onNode sections) service)
        fun ending =>
          let endings := endings ++ [(node, ending)]
          if ending.stops then finish endings
          else onNodes plugin call service finish rest endings

end Steps

/-- How the calls on some nodes end as a whole. -/
def ClusterMode.endingOf (mode : ClusterMode)
    (endings : List (HostName × Ending)) : Ending :=
  match endings.findSome? (·.2.stop?) with
  | some ending => ending
  | none =>
    match endings.filterMap fun e => e.2.result? e.1,
        endings.findSome? (·.2.message?) with
    | [], some message => .ignored message
    | results, _ => .yielded (clusterOutputs mode results)

/-- The steps of the call for a service. -/
def Topology.steps (t : Topology) (env : CheckEnvironment) (service : Service)
    (plugin : CheckPlugin) (call : AnyCall) : Steps :=
  let current := t.current service
  let own := current.namespaceKey
  match call with
  | .host call =>
    .around own ⟨plugin.declaredAs, current, .host call⟩
      (plugin.function call current) .ended
  | .cluster call =>
    match env.clusterMode t.host service.description with
    | .native =>
      match plugin.clusterFunction with
      | some function =>
        .around own ⟨plugin.declaredAs, current, .cluster call⟩
          (function call current) .ended
      | none =>
        .copy own fun values => .putBack own values
          (.ended (.failed (CheckPlugin.noClusterFunction plugin.name)))
    | .merge =>
      .around own ⟨plugin.declaredAs, current, .host call.merged⟩
        (plugin.function call.merged current) .ended
    | mode =>
      .copy own fun values =>
        .onNodes plugin call current
          (fun endings => .putBack own values (.ended (mode.endingOf endings)))
          call.nodes.entries []

-- ==================================================== the steps as a whole

/-- A state after the calls for a service. -/
def Invoked.after (invoked : Invoked) (state : CheckState) : CheckState :=
  { state with
    store := invoked.store
    calls := state.calls ++ invoked.calls
    cancelled := state.cancelled || invoked.cancels }

/-- A state after the calls on some nodes. -/
def NodeRuns.onto (runs : NodeRuns) (state : CheckState) : CheckState :=
  { state with
    store := runs.store
    calls := state.calls ++ runs.calls
    cancelled := state.cancelled || runs.cancels }

/-- What the record of the loop over the nodes says of their endings. -/
structure NodeRuns.Tells (runs : NodeRuns)
    (endings : List (HostName × Ending)) : Prop where
  results : runs.results = endings.filterMap fun e => e.2.result? e.1
  ignored : runs.ignored = endings.findSome? (·.2.message?)
  stopped : runs.stopped = endings.findSome? (·.2.stop?)

/-- The ending as a whole is that of the record. -/
private theorem NodeRuns.Tells.ending_eq {runs : NodeRuns}
    {endings : List (HostName × Ending)} (h : runs.Tells endings)
    (mode : ClusterMode) : runs.ending mode = mode.endingOf endings := by
  obtain ⟨results, ignored, stopped, store, calls, cancels⟩ := runs
  obtain ⟨rfl, rfl, rfl⟩ := h
  rfl

/-- One more call on a node is one more ending. -/
private theorem NodeRuns.Tells.after {plugin : CheckPlugin} {call : ClusterCall}
    {service : CurrentService} {run : HostName × SectionData → CheckRun}
    {runs : NodeRuns} {endings : List (HostName × Ending)}
    (h : runs.Tells endings) (entry : HostName × SectionData) :
    (runs.after plugin call service run [entry]).Tells
      (endings ++ [(entry.1, (run entry).ending)]) := by
  rw [NodeRuns.after_singleton]
  refine ⟨?_, ?_, ?_⟩
  · rw [List.filterMap_append, ← h.results, filterMap_cons_toList,
      List.filterMap_nil, List.append_nil]
  · rw [List.findSome?_append, ← h.ignored, List.findSome?_singleton]
  · rw [List.findSome?_append, ← h.stopped, List.findSome?_singleton]

/-- One turn of the loop adds the call on its node to the record. -/
private theorem add_eq_after {plugin : CheckPlugin} {call : ClusterCall}
    {service : CurrentService} {runs : NodeRuns}
    (hstopped : runs.stopped = none) (node : HostName)
    (sections : SectionData) :
    runs.add plugin call service node sections
      = runs.after plugin call service (plugin.runOn call service runs.store)
        [(node, sections)] :=
  @NodeRuns.add_eq plugin call service runs.store runs (node, sections) hstopped
    rfl

/-- The steps on one node are one turn of the loop. -/
private theorem run_onNode {plugin : CheckPlugin} {call : ClusterCall}
    {service : CurrentService} {runs : NodeRuns}
    (hstopped : runs.stopped = none) (node : HostName)
    (sections : SectionData) (next : Ending → Steps) (state : CheckState) :
    (Steps.around (service.namespaceKey.withNode node)
        (plugin.callOn call service (node, sections))
        (plugin.function (call.onNode sections) service) next).run
        (runs.onto state)
      = (next
          (plugin.runOn call service runs.store (node, sections)).ending).run
          ((runs.add plugin call service node sections).onto state) := by
  rw [add_eq_after hstopped, NodeRuns.after_singleton]
  unfold NodeRuns.onto
  rw [← List.append_assoc, ← Bool.or_assoc]
  rfl

/-- The steps on the nodes are the loop over them, whatever is done with the
endings. -/
private theorem run_onNodes {plugin : CheckPlugin} {call : ClusterCall}
    {service : CurrentService} (finish : List (HostName × Ending) → Steps)
    (state : CheckState) :
    ∀ (entries : List (HostName × SectionData)) (runs : NodeRuns)
      (endings : List (HostName × Ending)), runs.Tells endings →
      runs.stopped = none →
      ∃ all, (runs.addAll plugin call service entries).Tells all
        ∧ (Steps.onNodes plugin call service finish entries endings).run
            (runs.onto state)
          = (finish all).run
              ((runs.addAll plugin call service entries).onto state) := by
  intro entries
  induction entries with
  | nil => intro runs endings htells _; exact ⟨endings, htells, rfl⟩
  | cons entry rest ih =>
      obtain ⟨node, sections⟩ := entry
      intro runs endings htells hstopped
      unfold NodeRuns.addAll Steps.onNodes
      cases hcontent : sections.hasContent with
      | false => exact ih runs endings htells hstopped
      | true =>
          simp only [Bool.not_true, Bool.false_eq_true, if_false]
          rw [run_onNode hstopped]
          have htells' : (runs.add plugin call service node sections).Tells
              (endings ++ [(node, (plugin.runOn call service runs.store
                (node, sections)).ending)]) := by
            rw [add_eq_after hstopped]
            exact htells.after (node, sections)
          generalize (plugin.runOn call service runs.store
            (node, sections)).ending = ending at htells' ⊢
          generalize runs.add plugin call service node sections = after
            at htells' ⊢
          have hstop : after.stopped = ending.stop? := by
            rw [htells'.stopped, List.findSome?_append, ← htells.stopped,
              hstopped, Option.none_or, List.findSome?_singleton]
          cases hstops : ending.stops with
          | true =>
              have hsome : after.stopped.isSome = true := by
                rw [hstop, Ending.stop?, hstops]
                rfl
              rw [if_pos hsome, if_pos rfl]
              exact ⟨_, htells', rfl⟩
          | false =>
              have hnone : after.stopped = none := by
                rw [hstop, Ending.stop?, hstops]
                rfl
              rw [if_neg (by rw [hnone]; decide), if_neg (by decide)]
              exact ih _ _ htells' hnone

/-- The steps of a service whose nodes are checked one by one. -/
private theorem run_perNode {plugin : CheckPlugin} {mode : ClusterMode}
    {call : ClusterCall} {service : CurrentService} (own : NamespaceKey)
    (state : CheckState) :
    (Steps.copy own fun values =>
        .onNodes plugin call service
          (fun endings => .putBack own values (.ended (mode.endingOf endings)))
          call.nodes.entries []).run state
      = let runs := NodeRuns.addAll plugin call service { store := state.store }
          call.nodes.entries
        (runs.ending mode, Invoked.after
          { ending := runs.ending mode
            store := runs.store.commit own (state.store.workingCopy own)
            calls := runs.calls
            cancels := runs.cancels } state) := by
  have hstart : ({ store := state.store } : NodeRuns).onto state = state := by
    unfold NodeRuns.onto
    simp only [List.append_nil, Bool.or_false]
  obtain ⟨all, htells, hrun⟩ := run_onNodes
    (fun endings => .putBack own (state.store.workingCopy own)
      (.ended (mode.endingOf endings)))
    state call.nodes.entries { store := state.store } [] ⟨rfl, rfl, rfl⟩ rfl
  rw [hstart] at hrun
  show (Steps.onNodes plugin call service _ call.nodes.entries []).run state
    = _
  rw [hrun, ← htells.ending_eq mode]
  rfl

/-- The steps of a call, with nothing in between, are the call. -/
theorem Topology.run_steps (t : Topology) (env : CheckEnvironment)
    (service : Service) (plugin : CheckPlugin) (call : AnyCall)
    (state : CheckState) :
    (t.steps env service plugin call).run state
      = ((t.invoke env service plugin call state.store).ending,
        (t.invoke env service plugin call state.store).after state) := by
  unfold steps invoke
  cases call with
  | host call => rfl
  | cluster call =>
      simp only
      cases env.clusterMode t.host service.description with
      | native =>
          unfold CheckPlugin.invokeCluster CheckPlugin.invokeNative
          cases plugin.clusterFunction with
          | some function => rfl
          | none =>
              unfold Invoked.after
              simp only [List.append_nil, Bool.or_false]
              rfl
      | merge => rfl
      | worst | best | failover =>
          exact run_perNode _ _

-- ==================================================== whose namespaces

namespace Steps

/-- All namespaces that are opened belong to a service. -/
def Owned (host : HostName) (id : ServiceId) : Steps → Prop
  | ended _ => True
  | copy key next =>
    ValueStore.Owns host id key ∧ ∀ values, (next values).Owned host id
  | call _ _ next => next.Owned host id
  | putBack key _ next => ValueStore.Owns host id key ∧ next.Owned host id

/-- All copies are put back: those that are open, and those that will be. -/
def Closes : Steps → List NamespaceKey → Prop
  | ended _, opened => opened = []
  | copy key next, opened => ∀ values, (next values).Closes (key :: opened)
  | call _ _ next, opened => next.Closes opened
  | putBack key _ next, opened => next.Closes (opened.erase key)

/-- How the steps end, and what they leave to a service that they belong to,
depends on what is stored for the service. -/
theorem Owned.run_congr {host : HostName} {id : ServiceId} {steps : Steps}
    (howned : steps.Owned host id) {state state' : CheckState}
    (h : ValueStore.AgreeFor host id state.store state'.store) :
    (steps.run state).1 = (steps.run state').1
      ∧ ValueStore.AgreeFor host id (steps.run state).2.store
        (steps.run state').2.store := by
  induction steps generalizing state state' with
  | ended ending => exact ⟨rfl, h⟩
  | copy key next ih =>
      have hcopy : state.store.workingCopy key = state'.store.workingCopy key :=
        ValueStore.workingCopy_congr (h key howned.1)
      unfold run
      rw [hcopy]
      exact ih _ (howned.2 _) h
  | call invocation run next ih => exact ih howned h
  | putBack key values next ih => exact ih howned.2 (h.commit key values)

/-- One step goes on to what all steps come to. -/
theorem run_of_step {steps rest : Steps} {opened opened' : List NamespaceKey}
    {state state' : CheckState}
    (h : steps.step? opened state = some (rest, opened', state')) :
    rest.run state' = steps.run state := by
  cases steps with
  | ended ending => cases h
  | copy key next | call invocation run next | putBack key values next =>
      cases h
      rfl

/-- What remains after a step belongs to the service if all did. -/
theorem Owned.step {host : HostName} {id : ServiceId} {steps rest : Steps}
    {opened opened' : List NamespaceKey} {state state' : CheckState}
    (howned : steps.Owned host id)
    (h : steps.step? opened state = some (rest, opened', state')) :
    rest.Owned host id := by
  cases steps with
  | ended ending => cases h
  | copy key next => cases h; exact howned.2 _
  | call invocation run next => cases h; exact howned
  | putBack key values next => cases h; exact howned.2

/-- The copies that are open after a step are put back later if those before it
are. -/
theorem Closes.step {steps rest : Steps} {opened opened' : List NamespaceKey}
    {state state' : CheckState} (hcloses : steps.Closes opened)
    (h : steps.step? opened state = some (rest, opened', state')) :
    rest.Closes opened' := by
  cases steps with
  | ended ending => cases h
  | copy key next => cases h; exact hcloses _
  | call invocation run next | putBack key values next => cases h; exact hcloses

/-- A step leaves the namespaces of other services alone, and the keys that
are held. -/
theorem Owned.step_frame {host : HostName} {id : ServiceId} {steps rest : Steps}
    {opened opened' : List NamespaceKey} {state state' : CheckState}
    (howned : steps.Owned host id)
    (h : steps.step? opened state = some (rest, opened', state')) :
    state'.locks = state.locks
      ∧ ∀ key, ¬ ValueStore.Owns host id key →
        state'.store.get? key = state.store.get? key := by
  cases steps with
  | ended ending => cases h
  | copy key next | call invocation run next =>
      cases h
      exact ⟨rfl, fun _ _ => rfl⟩
  | putBack key values next =>
      cases h
      refine ⟨rfl, fun key' hkey' => ?_⟩
      show (state.store.commit key values).get? key' = _
      rw [ValueStore.get?_commit, if_neg]
      rintro rfl
      exact hkey' howned.1

/-- The steps around a function belong to the service that its namespace
belongs to. -/
private theorem owned_around {host : HostName} {id : ServiceId}
    {key : NamespaceKey} {invocation : Invocation}
    {function : Namespace → CheckRun} {next : Ending → Steps}
    (hkey : ValueStore.Owns host id key)
    (hnext : ∀ ending, (next ending).Owned host id) :
    (around key invocation function next).Owned host id :=
  ⟨hkey, fun _ => ⟨hkey, hnext _⟩⟩

/-- The steps on the nodes belong to the service if what is done in the end
does. -/
private theorem owned_onNodes {plugin : CheckPlugin} {call : ClusterCall}
    {service : CurrentService} {finish : List (HostName × Ending) → Steps}
    (hfinish : ∀ endings, (finish endings).Owned service.host service.id) :
    ∀ (entries : List (HostName × SectionData))
      (endings : List (HostName × Ending)),
      (onNodes plugin call service finish entries endings).Owned service.host
        service.id := by
  intro entries
  induction entries with
  | nil => exact hfinish
  | cons entry rest ih =>
      intro endings
      unfold onNodes
      split
      · exact ih endings
      · refine owned_around ⟨rfl, rfl⟩ fun ending => ?_
        simp only
        split
        · exact hfinish _
        · exact ih _

/-- The copy that a function is called on is put back before what follows. -/
private theorem closes_around {key : NamespaceKey} {invocation : Invocation}
    {function : Namespace → CheckRun} {next : Ending → Steps}
    {opened : List NamespaceKey}
    (hnext : ∀ ending, (next ending).Closes opened) :
    (around key invocation function next).Closes opened := by
  intro values
  show (next _).Closes ((key :: opened).erase key)
  rw [List.erase_cons_head]
  exact hnext _

/-- The copies of the nodes are put back before what is done in the end. -/
private theorem closes_onNodes {plugin : CheckPlugin} {call : ClusterCall}
    {service : CurrentService} {finish : List (HostName × Ending) → Steps}
    {opened : List NamespaceKey}
    (hfinish : ∀ endings, (finish endings).Closes opened) :
    ∀ (entries : List (HostName × SectionData))
      (endings : List (HostName × Ending)),
      (onNodes plugin call service finish entries endings).Closes opened := by
  intro entries
  induction entries with
  | nil => exact hfinish
  | cons entry rest ih =>
      intro endings
      unfold onNodes
      split
      · exact ih endings
      · refine closes_around fun ending => ?_
        simp only
        split
        · exact hfinish _
        · exact ih _

end Steps

namespace Topology

variable {t : Topology} {env : CheckEnvironment} {service : Service}
    {plugin : CheckPlugin}

/-- The call for a service opens namespaces of the service only. -/
theorem owned_steps (t : Topology) (env : CheckEnvironment) (service : Service)
    (plugin : CheckPlugin) (call : AnyCall) :
    (t.steps env service plugin call).Owned t.host service.id := by
  have hown : ValueStore.Owns t.host service.id
      (t.current service).namespaceKey := ⟨rfl, rfl⟩
  unfold steps
  cases call with
  | host call => exact Steps.owned_around hown fun _ => trivial
  | cluster call =>
      simp only
      cases env.clusterMode t.host service.description with
      | native =>
          cases plugin.clusterFunction with
          | some function => exact Steps.owned_around hown fun _ => trivial
          | none => exact ⟨hown, fun _ => ⟨hown, trivial⟩⟩
      | merge => exact Steps.owned_around hown fun _ => trivial
      | worst | best | failover =>
          refine ⟨hown, fun values => ?_⟩
          show Steps.Owned (t.current service).host (t.current service).id _
          refine Steps.owned_onNodes (fun endings => ?_) _ _
          exact ⟨hown, trivial⟩

/-- The call for a service puts back every copy that it opens, in whichever way
it ends. -/
theorem closes_steps (t : Topology) (env : CheckEnvironment) (service : Service)
    (plugin : CheckPlugin) (call : AnyCall) :
    (t.steps env service plugin call).Closes [] := by
  unfold steps
  cases call with
  | host call => exact Steps.closes_around fun _ => rfl
  | cluster call =>
      simp only
      cases env.clusterMode t.host service.description with
      | native =>
          cases plugin.clusterFunction with
          | some function => exact Steps.closes_around fun _ => rfl
          | none => exact fun _ => List.erase_cons_head ..
      | merge => exact Steps.closes_around fun _ => rfl
      | worst | best | failover =>
          intro values
          refine Steps.closes_onNodes (fun endings => ?_) _ _
          exact List.erase_cons_head ..

end Topology

end HostWatch
