/-
Letting failures through changes failing runs only.

An engine in debug mode lets the failures of its plugins through instead of
containing them. The mode is looked at where a failure has been caught, and
nowhere else; so a run that goes through in debug mode has caught none, and
takes the same steps without it.

The steps are followed from the inside out: one call, one check, one turn,
the turns of a run; then one inventory plugin, all of them, and what is
stored. Each lemma says of its step that it keeps its result and adds no
crash report. Only the first one, `conclude_of_debug`, and the one on
inventory plugins, `itemsOf_of_debug`, look into the way in which a plugin
ends.
-/
import HostWatch.Proofs.Fallible
import HostWatch.Proofs.Independence

namespace HostWatch

-- ==================================================== the checks

namespace Topology

variable {t : Topology} {env : CheckEnvironment} {service : Service}
    {plugin : CheckPlugin} {outcome : ServiceOutcome}

/-- A call from which a result comes in debug mode has not failed. -/
theorem conclude_of_debug {call : AnyCall} {info : Option CacheInfo}
    {ending : Ending} {state after : CheckState}
    (h : t.conclude { env with debug := true } service call info ending state
      = (.ok outcome, after)) :
    t.conclude { env with debug := false } service call info ending state
        = (.ok outcome, after)
      ∧ after.crashes = state.crashes := by
  unfold conclude at h ⊢
  cases ending with
  | yielded outputs | ignored message =>
      cases h
      exact ⟨rfl, rfl⟩
  | timedOut => cases h
  | failed message | crashed message =>
      -- in debug mode these two let the failure through
      simp only [if_true] at h
      cases h

theorem checkService_of_debug {state after : CheckState}
    (h : t.checkService { env with debug := true } service plugin state
      = (.ok outcome, after)) :
    t.checkService { env with debug := false } service plugin state
        = (.ok outcome, after)
      ∧ after.crashes = state.crashes := by
  cases hdata : t.dataFor env service plugin with
  | error result =>
      -- what a service reads has nothing to do with the mode
      have hdata' : ∀ debug,
          t.dataFor { env with debug } service plugin = .error result :=
        fun _ => hdata
      rw [checkService_of_noData (hdata' true)] at h
      rw [checkService_of_noData (hdata' false)]
      cases h
      exact ⟨rfl, rfl⟩
  | ok data =>
      have hdata' : ∀ debug,
          t.dataFor { env with debug } service plugin = .ok data :=
        fun _ => hdata
      rw [checkService_of_data (hdata' true)] at h
      rw [checkService_of_data (hdata' false)]
      exact conclude_of_debug h

end Topology

namespace CheckPlan

variable {plan : CheckPlan} {env : CheckEnvironment} {registry : CheckRegistry}

theorem checkOne_of_debug {service : Service} {state after : CheckState}
    {answer : Option ServiceOutcome}
    (h : plan.checkOne { env with debug := true } registry service state
      = (.ok answer, after)) :
    plan.checkOne { env with debug := false } registry service state
        = (.ok answer, after)
      ∧ after.crashes = state.crashes := by
  unfold checkOne at h ⊢
  by_cases hselects : (!plan.selection.selects service.plugin) = true
  · rw [if_pos hselects] at h ⊢
    cases h
    exact ⟨rfl, rfl⟩
  · rw [if_neg hselects] at h ⊢
    cases hfind : registry.find? service.plugin with
    | none =>
        rw [hfind] at h
        cases h
        exact ⟨rfl, rfl⟩
    | some plugin =>
        rw [hfind] at h
        simp only at h ⊢
        by_cases houtside : outsidePeriod env.periods service.checkPeriod = true
        · rw [if_pos houtside] at h ⊢
          cases h
          exact ⟨rfl, rfl⟩
        · rw [if_neg houtside] at h ⊢
          obtain ⟨outcome, rfl, hcheck⟩ := ok_of_map_some h
          obtain ⟨hsame, hcrashes⟩ := Topology.checkService_of_debug hcheck
          rw [hsame]
          exact ⟨rfl, hcrashes⟩

theorem checkFrom_of_debug (env : CheckEnvironment) {services : List Service} :
    ∀ {position : Nat} {state final : CheckState}
      {outcomes : List ServiceOutcome},
      plan.checkFrom { env with debug := true } registry position services state
        = (.ok outcomes, final) →
      plan.checkFrom { env with debug := false } registry position services
          state = (.ok outcomes, final)
        ∧ final.crashes = state.crashes := by
  induction services with
  | nil =>
      intro position state final outcomes h
      cases h
      exact ⟨rfl, rfl⟩
  | cons service rest ih =>
      intro position state final outcomes h
      have hgo : ¬ (plan.cancelledAt position || state.cancelled) = true := by
        intro hcancelled
        unfold checkFrom at h
        rw [if_pos hcancelled] at h
        cases h
      obtain ⟨answer, after, later, hone, hlater, rfl, -⟩ :=
        checkFrom_cons_ok h
      obtain ⟨hone', hfirst⟩ := checkOne_of_debug hone
      obtain ⟨hlater', hrest⟩ := ih hlater
      refine ⟨?_, hrest.trans hfirst⟩
      unfold checkFrom
      rw [if_neg hgo, hone']
      simp only
      rw [hlater']
      rfl

end CheckPlan

-- ==================================================== the inventory

namespace InventoryEnvironment

variable {env : InventoryEnvironment} {host : HostName}

/-- An inventory plugin that goes through in debug mode has not failed. -/
theorem itemsOf_of_debug {plugin : InventoryPlugin} {sourceType : SourceType}
    {found : List InventoryItem}
    (h : { env with debug := true }.itemsOf host plugin sourceType
      = .ok found) :
    { env with debug := false }.itemsOf host plugin sourceType = .ok found := by
  unfold itemsOf at h ⊢
  cases hcollect : Providers.collect? env.providers plugin.sections
      ⟨host, sourceType⟩ with
  | none =>
      simp only [hcollect] at h ⊢
      exact h
  | some collected =>
      obtain ⟨sections, infos⟩ := collected
      simp only [hcollect] at h ⊢
      cases hending : plugin.function
          { sections
            params := plugin.ruleset.map fun _ =>
              env.parameters host plugin } with
      | found items =>
          rw [hending] at h
          exact h
      | failed message | crashed message =>
          rw [hending] at h
          cases h

theorem items_of_debug {found : List InventoryItem}
    (h : { env with debug := true }.items host = .ok found) :
    { env with debug := false }.items host = .ok found := by
  unfold items at h ⊢
  obtain ⟨lists, hlists, hfound⟩ := bind_eq_ok_iff.mp h
  have hplain : (env.plugins.values.mapM fun plugin => do
      let ofHost ← { env with debug := false }.itemsOf host plugin .host
      let ofManagement ←
        { env with debug := false }.itemsOf host plugin .management
      pure (ofHost ++ ofManagement)) = .ok lists := by
    refine mapM_ok_mono (fun plugin items hitems => ?_) hlists
    obtain ⟨ofHost, hhost, hitems⟩ := bind_eq_ok_iff.mp hitems
    obtain ⟨ofManagement, hmanagement, hitems⟩ := bind_eq_ok_iff.mp hitems
    rw [itemsOf_of_debug hhost, itemsOf_of_debug hmanagement]
    exact hitems
  simp only [hplain]
  exact hfound

theorem statusTree_of_debug {tree : StatusTree}
    (h : { env with debug := true }.statusTree host = .ok tree) :
    { env with debug := false }.statusTree host = .ok tree := by
  unfold statusTree at h ⊢
  obtain ⟨found, hfound, htree⟩ := bind_eq_ok_iff.mp h
  rw [items_of_debug hfound]
  exact htree

theorem update_of_debug (env : InventoryEnvironment) {wanted : Bool}
    {store after : TreeStore}
    (h : { env with debug := true }.update host wanted store = .ok after) :
    { env with debug := false }.update host wanted store = .ok after := by
  unfold update at h ⊢
  by_cases hwanted : (!wanted) = true
  · rw [if_pos hwanted] at h ⊢
    exact h
  · rw [if_neg hwanted] at h ⊢
    obtain ⟨tree, htree, hstored⟩ := bind_eq_ok_iff.mp h
    rw [statusTree_of_debug htree]
    exact hstored

end InventoryEnvironment

-- ==================================================== a whole run

namespace Engine

variable {engine : Engine} {request : RunRequest} {fetched : List Fetched}

theorem checksOf_of_debug {state : RunState} {outcomes : List ServiceOutcome}
    {final : CheckState}
    (h : { engine with debug := true }.checksOf request fetched state
      = (.ok outcomes, final)) :
    { engine with debug := false }.checksOf request fetched state
        = (.ok outcomes, final)
      ∧ final.crashes = state.checks.crashes :=
  CheckPlan.checkFrom_of_debug (engine.environmentOf fetched) h

theorem updateInventory_of_debug {providers : Providers}
    {trees after : TreeStore}
    (h : { engine with debug := true }.updateInventory request providers trees
      = .ok after) :
    { engine with debug := false }.updateInventory request providers trees
      = .ok after := by
  unfold updateInventory at h ⊢
  by_cases heverything : request.plan.selection.isEverything = true
  · rw [if_pos heverything] at h ⊢
    exact InventoryEnvironment.update_of_debug
      ⟨providers, engine.inventory, engine.inventoryParameters, engine.debug⟩ h
  · rw [if_neg heverything] at h ⊢
    exact h

/-- Debug mode changes failing runs only. If a run in debug mode goes through,
the same run without it comes to the same result and leaves the same behind,
all of it: what has been passed on, what is remembered, the status data, the
calls that have been made; and neither of them adds a crash report. -/
theorem debug_changes_failing_runs_only [PatternLanguage] (engine : Engine)
    (request : RunRequest) (fetched : List Fetched) (state : RunState)
    {result : HostResult} {after : RunState}
    (h : { engine with debug := true }.run request fetched state
      = (.ok result, after)) :
    { engine with debug := false }.run request fetched state
        = (.ok result, after)
      ∧ after.checks.crashes = state.checks.crashes := by
  obtain ⟨outcomes, final, trees, hchecks, htrees, rfl, rfl⟩ := run_ok h
  obtain ⟨hchecks', hcrashes⟩ := checksOf_of_debug hchecks
  have htrees' : { engine with debug := false }.updateInventory request
      ({ engine with debug := false }.providers (fetched.map parseFetched))
      state.trees = .ok trees := updateInventory_of_debug htrees
  refine ⟨?_, hcrashes⟩
  rw [run_of_checks_ok hchecks']
  unfold conclude
  simp only [htrees']
  rfl

/-- In debug mode an engine may have a plugin that asks for its results to be
ignored, and an inventory plugin that finds something: nothing fails there. -/
theorem debug_changes_failing_runs_only_ignored :
    let engine : Engine := { brittleEngine (.ignored none) with
      inventory := sharedEngine.inventory }
    let fetched : List Fetched :=
      [(.agent "alpha", .ok "<<<load>>>\n1\n".toUTF8)]
    ∃ result after,
      { engine with debug := true }.run brittleRequest fetched {}
          = (.ok result, after)
        ∧ { engine with debug := false }.run brittleRequest fetched {}
          = (.ok result, after)
        ∧ after.checks.crashes = []
        ∧ after.submitted.map (·.map fun s => (s.description, s.pending))
          = [[("Before", false), ("Load", true), ("After", false)]]
        ∧ (after.trees.get? "alpha").isSome = true := by
  intro engine fetched
  have hgoes : ({ engine with debug := true }.run brittleRequest fetched
      {}).1.toOption.isSome = true := by decide +kernel
  generalize hrun : { engine with debug := true }.run brittleRequest fetched {}
    = run at hgoes
  obtain ⟨answer, after⟩ := run
  cases answer with
  | error abort => cases hgoes
  | ok result =>
      obtain ⟨hplain, hcrashes⟩ :=
        debug_changes_failing_runs_only engine brittleRequest fetched {} hrun
      have hafter : after = ({ engine with debug := true }.run brittleRequest
        fetched {}).2 := by rw [hrun]
      refine ⟨result, after, rfl, hplain, hcrashes, ?_, ?_⟩
      · rw [hafter]
        decide +kernel
      · rw [hafter]
        decide +kernel

end Engine

end HostWatch
