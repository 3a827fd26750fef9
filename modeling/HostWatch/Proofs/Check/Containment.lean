/-
What one plugin's functions can do to the services of the others: nothing.

Two registries declare the same plugins, but for one entry, whose functions
may be any (`DifferOnlyAt`). A run with the one and a run with the other
are compared turn by turn. The relation that is kept between the two
states is that their stores agree on all namespaces that the entry does
not serve (`AgreeElsewhere`); crash reports, calls and everything else may
differ. A turn of a service that the entry serves writes only what the
relation does not speak of; a turn of any other service reads only what it
does, so it comes to the same result, the identity of a crash report apart
(`SameUpToId`), as that counts the reports before it.

The main statement (`plugin_contained`) is the run lemma of this step,
with the account of the crash reports: each run adds one for each of its
turns whose call fails or breaks off, and no other.
-/
import HostWatch.Proofs.Check.Schedule

namespace HostWatch

-- ==================================================== two registries

namespace CheckRegistry

/-- Two registries have the same plugins, but for one entry that is
declared in both of them or in neither; if it is declared, the two
plugins may differ in everything. -/
structure DifferOnlyAt (entry : PluginName) (r r' : CheckRegistry) : Prop where
  others : ∀ name, name ≠ entry → r.plugins.get? name = r'.plugins.get? name
  declared : (r.plugins.get? entry).isSome = (r'.plugins.get? entry).isSome

/-- An entry of a registry serves its own name, and that of the management
plugin that it goes with, if there is none of that name. -/
def Serves (r : CheckRegistry) (entry name : PluginName) : Prop :=
  name = entry
    ∨ (r.plugins.get? name = none ∧ PluginName.isManagement name = true
      ∧ PluginName.toBasic name = entry)

variable {entry : PluginName} {r r' : CheckRegistry}

/-- A name that the entry does not serve is served by the same plugin in
both registries. -/
theorem DifferOnlyAt.find?_eq (h : DifferOnlyAt entry r r') {name : PluginName}
    (hname : ¬ r.Serves entry name) : r.find? name = r'.find? name := by
  have hget := h.others name fun heq => hname (Or.inl heq)
  unfold find?
  rw [← hget]
  cases hplugin : r.plugins.get? name with
  | some plugin => rfl
  | none =>
      simp only
      by_cases hmanagement : PluginName.isManagement name = true
      · rw [if_pos hmanagement, if_pos hmanagement, h.others]
        exact fun heq => hname (Or.inr ⟨hplugin, hmanagement, heq⟩)
      · rw [if_neg hmanagement, if_neg hmanagement]

/-- The two registries declare the same names. -/
private theorem DifferOnlyAt.get?_isSome (h : DifferOnlyAt entry r r')
    (name : PluginName) :
    (r.plugins.get? name).isSome = (r'.plugins.get? name).isSome := by
  by_cases hname : name = entry
  · rw [hname]
    exact h.declared
  · rw [h.others name hname]

/-- A name is served if it is declared, or stands for a declared one. -/
private theorem find?_isSome (r : CheckRegistry) (name : PluginName) :
    (r.find? name).isSome = ((r.plugins.get? name).isSome
      || (PluginName.isManagement name
        && (r.plugins.get? (PluginName.toBasic name)).isSome)) := by
  unfold find?
  cases r.plugins.get? name with
  | some plugin => rfl
  | none =>
      cases PluginName.isManagement name with
      | false => rfl
      | true => exact Option.isSome_map

/-- A name is served by some plugin in both registries or in neither. -/
theorem DifferOnlyAt.find?_isSome_eq (h : DifferOnlyAt entry r r')
    (name : PluginName) :
    (r.find? name).isSome = (r'.find? name).isSome := by
  rw [find?_isSome, find?_isSome, h.get?_isSome name,
    h.get?_isSome (PluginName.toBasic name)]

/-- Two stores agree on all namespaces that the entry does not serve. -/
def AgreeElsewhere (r : CheckRegistry) (entry : PluginName)
    (s s' : ValueStore) : Prop :=
  ∀ key : NamespaceKey, ¬ r.Serves entry key.service.plugin →
    s.get? key = s'.get? key

end CheckRegistry

-- ==================================================== two results

/-- Two results are the same, but for the identity of the crash report
that they name, if any. -/
def ServiceOutcome.SameUpToId (outcome outcome' : ServiceOutcome) : Prop :=
  outcome = outcome'
    ∨ ∃ (service : Service) (report : CrashReport) (id : String)
      (info : Option CacheInfo),
        outcome = .finished service report.result info
          ∧ outcome' = .finished service { report with id }.result info

/-- Two checks of a service come to the same result, the identity of a crash
report apart, or end the run in the same way. -/
def ServiceOutcome.SameAnswer :
    Except Abort ServiceOutcome → Except Abort ServiceOutcome → Prop
  | .ok outcome, .ok outcome' => outcome.SameUpToId outcome'
  | .error abort, .error abort' => abort = abort'
  | _, _ => False

namespace Topology

variable {t : Topology} {env : CheckEnvironment} {service : Service}
    {plugin : CheckPlugin}

/-- What comes of one ending is the same on any topology, with any arguments and
in any state, the identity of a report apart; and what the agent has delivered
last, which the report quotes, does not show in it either. -/
theorem conclude_sameAnswer {t' : Topology} {call call' : AnyCall}
    {info : Option CacheInfo} {ending : Ending} {providers : Providers}
    {agentOutput : Option ByteArray} {state state' : CheckState} :
    ServiceOutcome.SameAnswer
      (t.conclude env service call info ending state).1
      (t'.conclude { env with providers, agentOutput } service call' info ending
        state').1 := by
  unfold conclude
  cases ending with
  | yielded outputs | ignored message => exact Or.inl rfl
  | timedOut => exact rfl
  | failed message | crashed message =>
      cases hdebug : env.debug with
      | true =>
          simp only [if_true]
          exact rfl
      | false =>
          simp only [Bool.false_eq_true, if_false]
          exact Or.inr ⟨service, _, _, info, rfl, rfl⟩

/-- Two checks of a service with the same data and stores that agree for it
come to the same answer. -/
theorem checkService_sameAnswer {providers : Providers}
    {agentOutput : Option ByteArray} {state state' : CheckState}
    (hdata : t.dataFor env service plugin
      = t.dataFor { env with providers, agentOutput } service plugin)
    (hagree : ValueStore.AgreeFor t.host service.id state.store state'.store) :
    ServiceOutcome.SameAnswer
      (t.checkService env service plugin state).1
      (t.checkService { env with providers, agentOutput } service plugin
        state').1 := by
  cases h : t.dataFor env service plugin with
  | error result =>
      rw [checkService_of_noData h, checkService_of_noData (hdata ▸ h)]
      exact Or.inl rfl
  | ok data =>
      rw [checkService_of_data h, checkService_of_data (hdata ▸ h),
        (invoke_congr h hagree).1]
      exact conclude_sameAnswer

/-- Stores that agree for a service give it the same result, the
identity of a report apart. -/
theorem checkService_sameUpToId {state state' after after' : CheckState}
    {outcome outcome' : ServiceOutcome}
    (hagree : ValueStore.AgreeFor t.host service.id state.store state'.store)
    (h : t.checkService env service plugin state = (.ok outcome, after))
    (h' : t.checkService env service plugin state' = (.ok outcome', after')) :
    outcome.SameUpToId outcome' := by
  have hsame : ServiceOutcome.SameAnswer
      (t.checkService env service plugin state).1
      (t.checkService env service plugin state').1 :=
    checkService_sameAnswer rfl hagree
  rw [h, h'] at hsame
  exact hsame

end Topology

namespace CheckPlan

variable {plan : CheckPlan} {env : CheckEnvironment} {entry : PluginName}
    {r r' : CheckRegistry}

-- ==================================================== two turns

/-- Whose turn it is does not depend on the functions of an entry. -/
private theorem isDue_eq (hdiffer : r.DifferOnlyAt entry r')
    (service : Service) :
    plan.isDue env r service = plan.isDue env r' service := by
  have hnone : (r.find? service.plugin).isNone
      = (r'.find? service.plugin).isNone := by
    rw [← Option.not_isSome, ← Option.not_isSome, hdiffer.find?_isSome_eq]
  unfold isDue
  rw [hnone]

/-- A turn that goes through has a result for its own service, if for any. -/
private theorem services_of_answer {service : Service}
    {state after : CheckState} {answer : Option ServiceOutcome}
    (h : plan.checkOne env r service state = (.ok answer, after)) :
    answer.map (·.service)
      = if plan.isDue env r service then some service else none := by
  obtain ⟨hdue, hverdict⟩ := checkOne_ok h
  rw [← hdue]
  cases answer with
  | none => rfl
  | some outcome => exact congrArg some (hverdict outcome rfl).service_eq

/-- A turn leaves the namespaces of all other services alone. -/
theorem checkOne_frame {service : Service} {state : CheckState}
    {key : NamespaceKey}
    (hkey : ¬ ValueStore.Owns plan.topology.host service.id key) :
    (plan.checkOne env r service state).2.store.get? key
      = state.store.get? key := by
  rcases checkOne_cases plan env r service with
    ⟨-, heq⟩ | ⟨-, -, heq⟩ | ⟨plugin, -, -, heq⟩
  · rw [heq]
  · rw [heq]
  · rw [heq]
    exact Topology.checkService_frame hkey

/-- Stores that agree for a service still do after its turn. -/
private theorem checkOne_agree {service : Service} {state state' : CheckState}
    (hagree : ValueStore.AgreeFor plan.topology.host service.id state.store
      state'.store) :
    ValueStore.AgreeFor plan.topology.host service.id
      (plan.checkOne env r service state).2.store
      (plan.checkOne env r service state').2.store := by
  rcases checkOne_cases plan env r service with
    ⟨-, heq⟩ | ⟨-, -, heq⟩ | ⟨plugin, -, -, heq⟩
  · rw [heq state, heq state']
    exact hagree
  · rw [heq state, heq state']
    exact hagree
  · rw [heq state, heq state']
    exact Topology.checkService_agree rfl hagree

/-- Stores that agree for a service give its turns the same result, the
identity of a report apart. -/
private theorem checkOne_sameUpToId {service : Service}
    {state state' after after' : CheckState} {outcome outcome' : ServiceOutcome}
    (hagree : ValueStore.AgreeFor plan.topology.host service.id state.store
      state'.store)
    (h : plan.checkOne env r service state = (.ok (some outcome), after))
    (h' : plan.checkOne env r service state' = (.ok (some outcome'), after')) :
    outcome.SameUpToId outcome' := by
  rcases checkOne_cases plan env r service with
    ⟨-, heq⟩ | ⟨-, -, heq⟩ | ⟨plugin, -, -, heq⟩
  · rw [heq state] at h
    cases h
  · rw [heq state] at h
    rw [heq state'] at h'
    cases h
    cases h'
    exact Or.inl rfl
  · rw [heq state] at h
    rw [heq state'] at h'
    obtain ⟨_, hsome, hcheck⟩ := ok_of_map_some h
    obtain ⟨_, hsome', hcheck'⟩ := ok_of_map_some h'
    cases hsome
    cases hsome'
    exact Topology.checkService_sameUpToId hagree hcheck hcheck'

/-- A turn of a service that the entry does not serve is the same with
both registries. -/
private theorem checkOne_eq (hdiffer : r.DifferOnlyAt entry r')
    {service : Service} (hserves : ¬ r.Serves entry service.plugin) :
    plan.checkOne env r service = plan.checkOne env r' service := by
  funext state
  unfold checkOne
  rw [hdiffer.find?_eq hserves]

/-- One turn in two runs: the stores still agree where the entry does not
serve, and so do the results. -/
private theorem turn_contained (hdiffer : r.DifferOnlyAt entry r')
    {service : Service} {state state' after after' : CheckState}
    {answer answer' : Option ServiceOutcome}
    (hagree : r.AgreeElsewhere entry state.store state'.store)
    (h : plan.checkOne env r service state = (.ok answer, after))
    (h' : plan.checkOne env r' service state' = (.ok answer', after')) :
    r.AgreeElsewhere entry after.store after'.store
      ∧ answer.map (·.service) = answer'.map (·.service)
      ∧ ∀ outcome outcome', answer = some outcome → answer' = some outcome' →
          ¬ r.Serves entry outcome.service.plugin →
            outcome.SameUpToId outcome' := by
  have hservices : answer.map (·.service) = answer'.map (·.service) := by
    rw [services_of_answer h, services_of_answer h', isDue_eq hdiffer]
  have hfor : ¬ r.Serves entry service.plugin →
      ValueStore.AgreeFor plan.topology.host service.id state.store
        state'.store := by
    intro hserves key howns
    refine hagree key ?_
    rw [howns.2]
    exact hserves
  refine ⟨fun key hkey => ?_, hservices, ?_⟩
  · -- the turn reaches the service's own namespaces only, and if they are
    -- among those compared, the two runs have the same plugin for it
    have hafter : after.store
        = (plan.checkOne env r service state).2.store := by rw [h]
    have hafter' : after'.store
        = (plan.checkOne env r' service state').2.store := by rw [h']
    rw [hafter, hafter']
    by_cases howns : ValueStore.Owns plan.topology.host service.id key
    · have hserves : ¬ r.Serves entry service.plugin := by
        rw [howns.2] at hkey
        exact hkey
      rw [← checkOne_eq hdiffer hserves]
      exact checkOne_agree (hfor hserves) key howns
    · rw [checkOne_frame howns, checkOne_frame howns]
      exact hagree key hkey
  · rintro outcome outcome' rfl rfl hserves
    have hservice : outcome.service = service :=
      ((checkOne_ok h).2 outcome rfl).service_eq
    rw [hservice] at hserves
    rw [← checkOne_eq hdiffer hserves] at h'
    exact checkOne_sameUpToId (hfor hserves) h h'

-- ==================================================== two runs

/-- Two runs, turn by turn: the relation between the stores is kept, and
the results are related one by one. -/
private theorem run_contained (hdiffer : r.DifferOnlyAt entry r')
    {services : List Service} :
    ∀ {position : Nat} {state state' final final' : CheckState}
      {outcomes outcomes' : List ServiceOutcome},
      r.AgreeElsewhere entry state.store state'.store →
      plan.checkFrom env r position services state = (.ok outcomes, final) →
      plan.checkFrom env r' position services state' = (.ok outcomes', final') →
      r.AgreeElsewhere entry final.store final'.store
        ∧ outcomes.map (·.service) = outcomes'.map (·.service)
        ∧ ∀ pair ∈ outcomes.zip outcomes',
            ¬ r.Serves entry pair.1.service.plugin →
            pair.1.SameUpToId pair.2 := by
  induction services with
  | nil =>
      intro position state state' final final' outcomes outcomes' hagree h h'
      cases h
      cases h'
      exact ⟨hagree, rfl, fun pair hpair => by cases hpair⟩
  | cons service rest ih =>
      intro position state state' final final' outcomes outcomes' hagree h h'
      obtain ⟨answer, after, later, hone, hrest, rfl, -⟩ := checkFrom_cons_ok h
      obtain ⟨answer', after', later', hone', hrest', rfl, -⟩ :=
        checkFrom_cons_ok h'
      obtain ⟨hagree, hservices, hsame⟩ :=
        turn_contained hdiffer hagree hone hone'
      obtain ⟨hagree, hlater, hpairs⟩ := ih hagree hrest hrest'
      cases answer with
      | none =>
          cases answer' with
          | none => exact ⟨hagree, hlater, hpairs⟩
          | some outcome' => cases hservices
      | some outcome =>
          cases answer' with
          | none => cases hservices
          | some outcome' =>
              have hservice : outcome.service = outcome'.service :=
                Option.some.inj hservices
              refine ⟨hagree, ?_, ?_⟩
              · show outcome.service :: later.map _
                  = outcome'.service :: later'.map _
                rw [hservice, hlater]
              · intro pair hpair hserves
                rcases List.mem_cons.mp hpair with rfl | hpair
                · exact hsame outcome outcome' rfl rfl hserves
                · exact hpairs pair hpair hserves

-- ==================================================== crash reports

/-- The report that a turn adds to those that it finds: one if its call
fails or breaks off. -/
def crash? (plan : CheckPlan) (env : CheckEnvironment)
    (registry : CheckRegistry) (turn : Turn) : Option CrashReport :=
  if plan.isDue env registry turn.service then
    (registry.find? turn.service.plugin).bind fun plugin =>
      plan.topology.crash? env turn.service plugin turn.before
  else none

/-- A turn that goes through adds the report on its call, if there is to
be one, and no other. -/
private theorem checkOne_crashes (turn : Turn) {answer : Option ServiceOutcome}
    (h : plan.checkOne env r turn.service turn.before
      = (.ok answer, turn.after)) :
    turn.after.crashes = turn.before.crashes
      ++ (plan.crash? env r turn).toList := by
  unfold crash?
  rcases checkOne_cases plan env r turn.service with
    ⟨hdue, heq⟩ | ⟨hdue, hfind, heq⟩ | ⟨plugin, hdue, hfind, heq⟩
  · rw [heq] at h
    injection h with _ hafter
    rw [← hafter, hdue]
    exact (List.append_nil _).symm
  · rw [heq] at h
    injection h with _ hafter
    rw [← hafter, hdue, hfind]
    exact (List.append_nil _).symm
  · rw [heq] at h
    obtain ⟨outcome, -, hcheck⟩ := ok_of_map_some h
    rw [hdue, hfind]
    exact Topology.checkService_crashes hcheck

/-- A run that goes through adds the reports of its turns, in order. -/
theorem checkFrom_crashes {services : List Service} :
    ∀ {position : Nat} {state final : CheckState}
      {outcomes : List ServiceOutcome},
      plan.checkFrom env r position services state = (.ok outcomes, final) →
      final.crashes = state.crashes
        ++ (plan.turnsFrom env r position services state).filterMap
          (plan.crash? env r) := by
  induction services with
  | nil =>
      intro position state final outcomes h
      cases h
      exact (List.append_nil _).symm
  | cons service rest ih =>
      intro position state final outcomes h
      obtain ⟨answer, after, later, hone, hrest, -, hturns⟩ :=
        checkFrom_cons_ok h
      have hturn := checkOne_crashes ⟨service, state, .ok answer, after⟩ hone
      rw [hturns, filterMap_cons_toList, ← List.append_assoc, ← hturn]
      exact ih hrest

-- ==================================================== the main statement

/-- Whatever the functions of one entry do in a run that goes through,
the services that the entry does not serve get the same results, the
identities of crash reports apart, and remember the same; and each run
adds the crash reports of its own turns, in order, and no others. -/
theorem plugin_contained (plan : CheckPlan) (env : CheckEnvironment)
    (entry : PluginName) (r r' : CheckRegistry) (state : CheckState)
    (hdiffer : r.DifferOnlyAt entry r')
    {outcomes outcomes' : List ServiceOutcome} {final final' : CheckState}
    (h : plan.check env r state = (.ok outcomes, final))
    (h' : plan.check env r' state = (.ok outcomes', final')) :
    outcomes.map (·.service) = outcomes'.map (·.service)
      ∧ (∀ pair ∈ outcomes.zip outcomes',
          ¬ r.Serves entry pair.1.service.plugin → pair.1.SameUpToId pair.2)
      ∧ (∀ key : NamespaceKey, ¬ r.Serves entry key.service.plugin →
          final.store.get? key = final'.store.get? key)
      ∧ final.crashes = state.crashes
          ++ (plan.turns env r state).filterMap (plan.crash? env r)
      ∧ final'.crashes = state.crashes
          ++ (plan.turns env r' state).filterMap (plan.crash? env r') := by
  obtain ⟨hagree, hservices, hpairs⟩ :=
    run_contained hdiffer (fun _ _ => rfl) h h'
  exact ⟨hservices, hpairs, hagree, checkFrom_crashes h, checkFrom_crashes h'⟩

/-- A plugin that remembers that it was called, and is fine with it. -/
def rememberingPlugin : CheckPlugin where
  name := "seen"
  sections := ["load"]
  function _ _ values :=
    { ending := .yielded [.ofSummary .ok "seen"]
      values := values.insert "called" (.bool true) }

/-- Two services of a cluster, of which the second one has the plugin
that remembers. -/
def neighbourPlan : CheckPlan where
  topology := pairTopology
  services := [loadService, { plugin := "seen", description := "Seen" }]

/-- The remembering plugin next to another one. -/
def neighbourRegistry (neighbour : CheckPlugin) : CheckRegistry :=
  ⟨(SortedMap.empty.insert "load" neighbour).insert "seen" rememberingPlugin⟩

/-- The neighbour is what it was declared to be. -/
private theorem neighbourRegistry_get? (neighbour : CheckPlugin) :
    (neighbourRegistry neighbour).plugins.get? "load" = some neighbour := by
  unfold neighbourRegistry
  rw [SortedMap.get?_insert, if_neg (by decide), SortedMap.get?_insert,
    if_pos rfl]

/-- Registries that differ in the neighbour differ only there. -/
private theorem neighbourRegistry_differ (neighbour neighbour' : CheckPlugin) :
    (neighbourRegistry neighbour).DifferOnlyAt "load"
      (neighbourRegistry neighbour') := by
  refine ⟨fun name hname => ?_, ?_⟩
  · unfold neighbourRegistry
    rw [SortedMap.get?_insert, SortedMap.get?_insert, SortedMap.get?_insert,
      SortedMap.get?_insert, if_neg hname, if_neg hname]
  · rw [neighbourRegistry_get?, neighbourRegistry_get?]
    rfl

/-- A neighbour that breaks off is told from one that is fine by its own
result and its report only. -/
theorem plugin_contained_crashing_neighbour :
    let env := pairEnvironment .merge
    let r := neighbourRegistry crashingPlugin
    let r' := neighbourRegistry { crashingPlugin with
      function := rememberingPlugin.function }
    r.DifferOnlyAt "load" r'
      ∧ ∃ outcomes outcomes' final final',
        neighbourPlan.check env r {} = (.ok outcomes, final)
          ∧ neighbourPlan.check env r' {} = (.ok outcomes', final')
          ∧ outcomes.map (·.service) = outcomes'.map (·.service)
          ∧ (∀ pair ∈ outcomes.zip outcomes',
              ¬ r.Serves "load" pair.1.service.plugin →
              pair.1.SameUpToId pair.2)
          ∧ (∀ key : NamespaceKey, ¬ r.Serves "load" key.service.plugin →
              final.store.get? key = final'.store.get? key)
          ∧ final.crashes.length = 1 ∧ final'.crashes.length = 0 := by
  intro env r r'
  have hdiffer : r.DifferOnlyAt "load" r' := neighbourRegistry_differ _ _
  have hok : (neighbourPlan.check env r {}).1.toOption.isSome = true
      ∧ (neighbourPlan.check env r {}).2.crashes.length = 1 := by
    decide +kernel
  have hok' : (neighbourPlan.check env r' {}).1.toOption.isSome = true
      ∧ (neighbourPlan.check env r' {}).2.crashes.length = 0 := by
    decide +kernel
  refine ⟨hdiffer, ?_⟩
  generalize hrun : neighbourPlan.check env r {} = run at hok ⊢
  generalize hrun' : neighbourPlan.check env r' {} = run' at hok' ⊢
  obtain ⟨result, final⟩ := run
  obtain ⟨result', final'⟩ := run'
  cases result with
  | error abort => cases hok.1
  | ok outcomes =>
      cases result' with
      | error abort => cases hok'.1
      | ok outcomes' =>
          obtain ⟨hservices, hpairs, hstore, -, -⟩ :=
            plugin_contained neighbourPlan env "load" r r' {} hdiffer hrun hrun'
          exact ⟨outcomes, outcomes', final, final', rfl, rfl, hservices,
            hpairs, hstore, hok.2, hok'.2⟩

end CheckPlan

end HostWatch
