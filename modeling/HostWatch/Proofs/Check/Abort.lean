/-
What breaks a run of checks off, and what has been called by then.

A run breaks off at a service for one of two reasons (`BreaksOff`): it is
cancelled, from outside or by a function that was called before, when it gets
there; or it calls the service's function, and the function is interrupted, or
fails while failures are let through. `checkFrom_breaksOff` says that the
run comes to nothing then, and `breaksOff_of_checkFrom` that nothing else can
keep it from going through. A run that breaks off has called functions of the
services before that one and of the service itself, and of no other
(`checkOne_calls`, `checkFrom_calls`): the loop does not look at the rest of
the list.
-/
import HostWatch.Proofs.Check.Schedule

namespace HostWatch

-- ==================================================== endings that abort

/-- What an ending aborts a run with, if it does. -/
def Ending.abort? (debug : Bool) (plugin : PluginName) : Ending → Option Abort
  | .yielded _ | .ignored _ => none
  | .timedOut => some (.error .timeout)
  | .failed message =>
    if debug then some (.error (.pluginCrash plugin message)) else none
  | .crashed message => if debug then some (.crash message) else none

namespace Topology

variable {t : Topology} {env : CheckEnvironment} {service : Service}
    {plugin : CheckPlugin}

/-- An ending that aborts is passed on, and any other one has a result. -/
theorem conclude_abort? (t : Topology) (env : CheckEnvironment)
    (service : Service) (call : AnyCall) (info : Option CacheInfo)
    (ending : Ending) (state : CheckState) :
    match ending.abort? env.debug service.plugin with
    | some abort =>
      t.conclude env service call info ending state = (.error abort, state)
    | none => ∃ outcome,
      (t.conclude env service call info ending state).1 = .ok outcome := by
  unfold conclude Ending.abort?
  cases ending with
  | yielded outputs | ignored message => exact ⟨_, rfl⟩
  | timedOut => rfl
  | failed message | crashed message =>
      cases env.debug with
      | true => rfl
      | false => exact ⟨_, rfl⟩

/-- The calls for a service that is checked node by node are about it. -/
private theorem service_of_mem_calledNodes {call : ClusterCall}
    {current : CurrentService} {entries : List (HostName × SectionData)}
    {invocation : Invocation}
    (h : invocation ∈ entries.map (plugin.callOn call current)) :
    invocation.service = current := by
  obtain ⟨entry, -, rfl⟩ := List.mem_map.mp h
  rfl

/-- The calls for a service are about it. -/
theorem service_of_mem_calls {data : ServiceData}
    (hdata : t.dataFor env service plugin = .ok data) {store : ValueStore}
    {invocation : Invocation}
    (h : invocation ∈ (t.invoke env service plugin
      (callFor env service plugin data) store).calls) :
    invocation.service = t.current service := by
  cases hcall : callFor env service plugin data with
  | host call =>
      rw [hcall] at h
      rw [List.mem_singleton.mp h]
  | cluster call =>
      have hcontent := hasContent_of_callFor hdata hcall
      rw [hcall] at h
      unfold invoke at h
      cases hmode : env.clusterMode t.host service.description with
      | native =>
          simp only [hmode] at h
          unfold CheckPlugin.invokeCluster CheckPlugin.invokeNative at h
          cases hfun : plugin.clusterFunction with
          | some function =>
              rw [hfun] at h
              rw [List.mem_singleton.mp h]
          | none =>
              rw [hfun] at h
              cases h
      | merge =>
          simp only [hmode] at h
          rw [List.mem_singleton.mp h]
      | worst | best | failover =>
          simp only [hmode] at h
          rw [CheckPlugin.invokeCluster_perNode rfl hcontent] at h
          exact service_of_mem_calledNodes h

/-- A check calls functions for its own service only. -/
theorem checkService_calls (state : CheckState) :
    ∃ own, (t.checkService env service plugin state).2.calls
        = state.calls ++ own
      ∧ ∀ invocation ∈ own, invocation.service = t.current service := by
  cases hdata : t.dataFor env service plugin with
  | error result =>
      rw [checkService_of_noData hdata]
      exact ⟨[], (List.append_nil _).symm, List.forall_mem_nil _⟩
  | ok data =>
      rw [checkService_of_data hdata, conclude_keeps.2.1]
      exact ⟨_, rfl, fun _ => service_of_mem_calls hdata⟩

end Topology

namespace CheckPlan

variable {plan : CheckPlan} {env : CheckEnvironment} {registry : CheckRegistry}

-- ==================================================== where a run breaks off

/-- The reasons for which a run breaks off at a service, in the state in which
it gets there. -/
inductive BreaksOff (plan : CheckPlan) (env : CheckEnvironment)
    (registry : CheckRegistry) (position : Nat) (service : Service)
    (state : CheckState) : Abort → Prop
  /-- It has been cancelled, from outside or by a function. -/
  | cancelled
      (h : plan.cancelledAt position = true ∨ state.cancelled = true) :
      BreaksOff plan env registry position service state (.error .timeout)
  /-- It has not, and the service's function ends in a way that aborts. -/
  | aborted {plugin : CheckPlugin} {ending : Ending} {abort : Abort}
      (hgo : plan.cancelledAt position = false ∧ state.cancelled = false)
      (hdue : plan.isDue env registry service = true)
      (hfind : registry.find? service.plugin = some plugin)
      (hending : plan.topology.ending? env service plugin state.store
        = some ending)
      (habort : ending.abort? env.debug service.plugin = some abort) :
      BreaksOff plan env registry position service state abort

/-- A run gets to the service at a position, in a state. -/
def Reaches (plan : CheckPlan) (env : CheckEnvironment)
    (registry : CheckRegistry) (start : CheckState) (position : Nat)
    (state : CheckState) : Prop :=
  ∃ outcomes, plan.checkFrom env registry 0 (plan.services.take position) start
    = (.ok outcomes, state)

-- ==================================================== one turn

/-- A turn aborts exactly if its service's function is called and ends in a
way that does. -/
theorem checkOne_abort {service : Service} {state : CheckState}
    {abort : Abort} :
    (plan.checkOne env registry service state).1 = .error abort
      ↔ ∃ plugin ending, plan.isDue env registry service = true
        ∧ registry.find? service.plugin = some plugin
        ∧ plan.topology.ending? env service plugin state.store = some ending
        ∧ ending.abort? env.debug service.plugin = some abort := by
  rcases checkOne_cases plan env registry service with
    ⟨hdue, heq⟩ | ⟨-, hfind, heq⟩ | ⟨plugin, hdue, hfind, heq⟩
  · rw [heq state, hdue]
    exact ⟨fun h => (by cases h), fun ⟨_, _, h, _⟩ => (by cases h)⟩
  · rw [heq state, hfind]
    exact ⟨fun h => (by cases h), fun ⟨_, _, _, h, _⟩ => (by cases h)⟩
  · rw [heq state, hfind]
    cases hdata : plan.topology.dataFor env service plugin with
    | error result =>
        rw [Topology.checkService_of_noData hdata]
        refine ⟨fun h => (by cases h), ?_⟩
        rintro ⟨_, ending, -, hplugin, hending, -⟩
        cases hplugin
        rw [Topology.ending?_of_noData hdata] at hending
        cases hending
    | ok data =>
        rw [Topology.checkService_of_data hdata]
        have hconclude := plan.topology.conclude_abort? env service
          (Topology.callFor env service plugin data) data.cacheInfo
          (plan.topology.invoke env service plugin
            (Topology.callFor env service plugin data) state.store).ending
          (plan.topology.called env service plugin data state)
        constructor
        · intro h
          refine ⟨plugin, _, hdue, rfl, Topology.ending?_of_data hdata _, ?_⟩
          split at hconclude
          case h_1 abort' hsome =>
            rw [hconclude] at h
            cases h
            exact hsome
          case h_2 hnone =>
            obtain ⟨outcome, houtcome⟩ := hconclude
            rw [houtcome] at h
            cases h
        · rintro ⟨_, ending, -, hplugin, hending, habort⟩
          cases hplugin
          rw [Topology.ending?_of_data hdata] at hending
          cases hending
          rw [habort] at hconclude
          rw [hconclude]
          rfl

/-- A turn calls functions for its own service only. -/
theorem checkOne_calls (plan : CheckPlan) (env : CheckEnvironment)
    (registry : CheckRegistry) (service : Service) (state : CheckState) :
    ∃ own, (plan.checkOne env registry service state).2.calls
        = state.calls ++ own
      ∧ ∀ invocation ∈ own,
        invocation.service = plan.topology.current service := by
  rcases checkOne_cases plan env registry service with
    ⟨-, heq⟩ | ⟨-, -, heq⟩ | ⟨plugin, -, -, heq⟩
  · exact ⟨[], by rw [heq state, List.append_nil], List.forall_mem_nil _⟩
  · exact ⟨[], by rw [heq state, List.append_nil], List.forall_mem_nil _⟩
  · rw [heq state]
    exact Topology.checkService_calls state

-- ==================================================== the turns of a run

/-- A run calls functions for its own services only. -/
theorem checkFrom_calls (plan : CheckPlan) (env : CheckEnvironment)
    (registry : CheckRegistry) (services : List Service) :
    ∀ (position : Nat) (state : CheckState),
      ∃ made, (plan.checkFrom env registry position services state).2.calls
          = state.calls ++ made
        ∧ ∀ invocation ∈ made, ∃ service ∈ services,
          invocation.service = plan.topology.current service := by
  induction services with
  | nil =>
      intro position state
      exact ⟨[], (List.append_nil _).symm, List.forall_mem_nil _⟩
  | cons service rest ih =>
      intro position state
      obtain ⟨own, hown, hservice⟩ :=
        plan.checkOne_calls env registry service state
      have hfirst : ∀ invocation ∈ own, ∃ s ∈ service :: rest,
          invocation.service = plan.topology.current s :=
        fun invocation hmem =>
          ⟨service, List.mem_cons_self .., hservice invocation hmem⟩
      unfold checkFrom
      split
      · exact ⟨[], (List.append_nil _).symm, List.forall_mem_nil _⟩
      · generalize plan.checkOne env registry service state = one at hown
        obtain ⟨answer, after⟩ := one
        cases answer with
        | error abort => exact ⟨own, hown, hfirst⟩
        | ok answer =>
            obtain ⟨made, hmade, hservices⟩ := ih (position + 1) after
            refine ⟨own ++ made, ?_, fun invocation hmem => ?_⟩
            · rw [← List.append_assoc, ← hown]
              exact hmade
            · rcases List.mem_append.mp hmem with hmem | hmem
              · exact hfirst invocation hmem
              · obtain ⟨s, hs, heq⟩ := hservices invocation hmem
                exact ⟨s, List.mem_cons_of_mem _ hs, heq⟩

/-- A run that goes through its first services comes to what it comes to from
there on. -/
theorem checkFrom_append_error {earlier later : List Service} {abort : Abort}
    {reached final : CheckState} :
    ∀ {position : Nat} {state : CheckState} {outcomes : List ServiceOutcome},
      plan.checkFrom env registry position earlier state
        = (.ok outcomes, reached) →
      plan.checkFrom env registry (position + earlier.length) later reached
        = (.error abort, final) →
      plan.checkFrom env registry position (earlier ++ later) state
        = (.error abort, final) := by
  induction earlier with
  | nil =>
      intro position state outcomes h hlater
      cases h
      exact hlater
  | cons service rest ih =>
      intro position state outcomes h hlater
      obtain ⟨answer, after, more, hone, hrest, -, -⟩ := checkFrom_cons_ok h
      have hgo : ¬ (plan.cancelledAt position || state.cancelled) = true := by
        intro hcancelled
        unfold checkFrom at h
        rw [if_pos hcancelled] at h
        cases h
      have hwhole := ih hrest (by
        rw [List.length_cons, Nat.add_comm rest.length, ← Nat.add_assoc]
          at hlater
        exact hlater)
      rw [List.cons_append]
      unfold checkFrom
      rw [if_neg hgo, hone]
      simp only
      rw [hwhole]
      rfl

/-- A run comes to nothing where it breaks off, and what it has called for the
service is all that it calls from there on. -/
theorem checkFrom_breaksOff {position : Nat} {service : Service}
    {state : CheckState} {abort : Abort}
    (h : plan.BreaksOff env registry position service state abort)
    (rest : List Service) :
    ∃ after own,
      plan.checkFrom env registry position (service :: rest) state
          = (.error abort, after)
        ∧ after.calls = state.calls ++ own
        ∧ ∀ invocation ∈ own,
          invocation.service = plan.topology.current service := by
  unfold checkFrom
  cases h with
  | cancelled hcancelled =>
      rw [if_pos (Bool.or_eq_true_iff.mpr hcancelled)]
      exact ⟨state, [], rfl, (List.append_nil _).symm, List.forall_mem_nil _⟩
  | aborted hgo hdue hfind hending habort =>
      have hone := checkOne_abort.mpr ⟨_, _, hdue, hfind, hending, habort⟩
      obtain ⟨own, hown, hservice⟩ :=
        plan.checkOne_calls env registry service state
      rw [hgo.1, hgo.2, if_neg (by decide)]
      generalize plan.checkOne env registry service state = one at hone hown
      obtain ⟨answer, after⟩ := one
      cases hone
      exact ⟨after, own, rfl, hown, hservice⟩

/-- A run that comes to nothing breaks off at one of its services. -/
theorem breaksOff_of_checkFrom {services : List Service} :
    ∀ {position : Nat} {state final : CheckState} {abort : Abort},
      plan.checkFrom env registry position services state
        = (.error abort, final) →
      ∃ earlier service later outcomes reached,
        services = earlier ++ service :: later
          ∧ plan.checkFrom env registry position earlier state
            = (.ok outcomes, reached)
          ∧ plan.BreaksOff env registry (position + earlier.length) service
            reached abort := by
  induction services with
  | nil => intro position state final abort h; cases h
  | cons service rest ih =>
      intro position state final abort h
      unfold checkFrom at h
      split at h
      case isTrue hcancelled =>
        cases h
        exact ⟨[], service, rest, [], state, rfl, rfl,
          .cancelled (Bool.or_eq_true_iff.mp hcancelled)⟩
      case isFalse hgo =>
        cases hone : plan.checkOne env registry service state with
        | mk answer after =>
            rw [hone] at h
            cases answer with
            | error abort' =>
                cases h
                obtain ⟨plugin, ending, hdue, hfind, hending, habort⟩ :=
                  checkOne_abort.mp (congrArg Prod.fst hone)
                rw [Bool.not_eq_true, Bool.or_eq_false_iff] at hgo
                exact ⟨[], service, rest, [], state, rfl, rfl,
                  .aborted hgo hdue hfind hending habort⟩
            | ok answer =>
                cases hrest : plan.checkFrom env registry (position + 1) rest
                    after with
                | mk result final' =>
                    simp only [hrest] at h
                    cases result with
                    | ok later => cases h
                    | error abort' =>
                        cases h
                        obtain ⟨earlier, last, later, outcomes, reached, rfl,
                          hearlier, hbreaks⟩ := ih hrest
                        refine ⟨service :: earlier, last, later,
                          answer.toList ++ outcomes, reached, rfl, ?_, ?_⟩
                        · unfold checkFrom
                          rw [if_neg hgo, hone]
                          simp only [hearlier]
                          rfl
                        · rwa [List.length_cons, Nat.add_comm earlier.length,
                            ← Nat.add_assoc]

-- ==================================================== whole runs

variable {start reached : CheckState} {position : Nat} {service : Service}
    {abort : Abort}

/-- When a run gets to a service, it has called functions for the services
before that one only. -/
theorem Reaches.calls (h : plan.Reaches env registry start position reached) :
    ∃ made, reached.calls = start.calls ++ made
      ∧ ∀ invocation ∈ made, ∃ service ∈ plan.services.take position,
        invocation.service = plan.topology.current service := by
  obtain ⟨outcomes, hrun⟩ := h
  have hcalls := plan.checkFrom_calls env registry
    (plan.services.take position) 0 start
  rwa [hrun] at hcalls

/-- A run comes to nothing where it breaks off. -/
theorem check_of_breaksOff (hservice : plan.services[position]? = some service)
    (hreaches : plan.Reaches env registry start position reached)
    (h : plan.BreaksOff env registry position service reached abort) :
    ∃ final own, plan.check env registry start = (.error abort, final)
      ∧ final.calls = reached.calls ++ own
      ∧ ∀ invocation ∈ own,
        invocation.service = plan.topology.current service := by
  obtain ⟨hlt, hget⟩ := List.getElem?_eq_some_iff.mp hservice
  have hsplit : plan.services.take position
      ++ service :: plan.services.drop (position + 1) = plan.services := by
    rw [← hget, List.getElem_cons_drop, List.take_append_drop]
  obtain ⟨outcomes, hrun⟩ := hreaches
  obtain ⟨final, own, hlater, hcalls, hown⟩ :=
    checkFrom_breaksOff h (plan.services.drop (position + 1))
  refine ⟨final, own, ?_, hcalls, hown⟩
  unfold check
  rw [← hsplit]
  refine checkFrom_append_error hrun ?_
  rw [List.length_take, Nat.min_eq_left (Nat.le_of_lt hlt), Nat.zero_add]
  exact hlater

/-- Nothing else keeps a run from going through. -/
theorem exists_breaksOff
    (h : (plan.check env registry start).1 = .error abort) :
    ∃ position service reached, plan.services[position]? = some service
      ∧ plan.Reaches env registry start position reached
      ∧ plan.BreaksOff env registry position service reached abort := by
  cases hcheck : plan.check env registry start with
  | mk result final =>
      rw [hcheck] at h
      cases h
      obtain ⟨earlier, service, later, outcomes, reached, hservices, hrun,
        hbreaks⟩ := breaksOff_of_checkFrom hcheck
      rw [Nat.zero_add] at hbreaks
      refine ⟨earlier.length, service, reached, ?_, ⟨outcomes, ?_⟩, hbreaks⟩
      · rw [hservices, List.getElem?_append_right (Nat.le_refl _), Nat.sub_self]
        rfl
      · rw [hservices, List.take_left]
        exact hrun

end CheckPlan

end HostWatch
