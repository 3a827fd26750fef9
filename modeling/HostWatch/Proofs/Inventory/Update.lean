/-
What a run leaves of the inventory.

With debug mode off no inventory plugin can end a run, and whether one is
called has to do with neither the others nor their answers. So there is no
loop to follow: the items of a host are those of the calls that are made,
call by call (`items_of_not_debug`), and the only failure that is left is
that the items contradict one another. What an inventory does to status data
in memory is then a single equation, `update_memory`, with one case for each
kind of run.

A plugin without a successful call adds nothing to the items, so the registry
without it has the same ones (`itemsFound_erase`). The checks and the result
of a host do not look at the registry at all; therefore the whole run is the
same without such a plugin, also where it breaks off, and wherever status data
is kept.
-/
import HostWatch.Proofs.Fallible
import HostWatch.Proofs.Independence

namespace HostWatch

/-- The items that an inventory function ends with; none, if it has failed. -/
def InventoryEnding.items : InventoryEnding → List InventoryItem
  | .found items => items
  | .failed _ | .crashed _ => []

namespace InventoryEnvironment

variable {env : InventoryEnvironment} {host : HostName}

-- ==================================================== the calls

/-- The call of a plugin for one kind of source of a host: there is one if
some section that the plugin declares resolves there. It is made with all
declared sections, and with parameters if the plugin has a ruleset. -/
def callTo? (env : InventoryEnvironment) (host : HostName)
    (plugin : InventoryPlugin) (sourceType : SourceType) :
    Option InventoryCall :=
  let resolve? := Providers.resolve? env.providers ⟨host, sourceType⟩
  if ∃ name ∈ plugin.sections, (resolve? name).isSome then
    some
      { sections := .ofList (plugin.sections.map fun name =>
          (name, (resolve? name).map (·.data)))
        params := plugin.ruleset.map fun _ => env.parameters host plugin }
  else none

/-- The calls of a plugin for a host: the host's own sources come before its
management board. -/
def callsTo (env : InventoryEnvironment) (host : HostName)
    (plugin : InventoryPlugin) : List InventoryCall :=
  (env.callTo? host plugin .host).toList
    ++ (env.callTo? host plugin .management).toList

/-- The items of the successful calls for a host, plugin by plugin in the
order of their names. -/
def itemsFound (env : InventoryEnvironment) (host : HostName) :
    List InventoryItem :=
  env.plugins.values.flatMap fun plugin =>
    (env.callsTo host plugin).flatMap fun call => (plugin.function call).items

/-- A plugin is called with what is collected for it, if there is anything. -/
theorem callTo?_eq (env : InventoryEnvironment) (host : HostName)
    (plugin : InventoryPlugin) (sourceType : SourceType) :
    env.callTo? host plugin sourceType =
      (Providers.collect? env.providers plugin.sections
        ⟨host, sourceType⟩).map fun collected =>
          { sections := collected.1
            params := plugin.ruleset.map fun _ =>
              env.parameters host plugin } := by
  unfold callTo?
  cases hcollect : Providers.collect? env.providers plugin.sections
      ⟨host, sourceType⟩ with
  | none =>
      have hnone := (Providers.collect?_eq_none_iff ..).mp hcollect
      rw [if_neg]
      · rfl
      · rintro ⟨name, hname, hresolved⟩
        rw [hnone name hname] at hresolved
        cases hresolved
  | some collected =>
      obtain ⟨sections, infos⟩ := collected
      have hsections : sections = .ofList (plugin.sections.map fun name =>
          (name, (Providers.resolve? env.providers ⟨host, sourceType⟩
            name).map (·.data))) := by
        apply SortedMap.ext_get?
        intro name
        rw [(Providers.get?_of_collect? hcollect).1 name,
          SortedMap.get?_ofList_map]
      rw [if_pos, Option.map_some, hsections]
      -- were there no such section, nothing would have been collected
      by_contra hnone
      rw [(Providers.collect?_eq_none_iff ..).mpr] at hcollect
      · cases hcollect
      · intro name hname
        rw [← Option.not_isSome_iff_eq_none]
        exact fun hresolved => hnone ⟨name, hname, hresolved⟩

-- ==================================================== the items

/-- Without debug mode, a plugin gives the items of its call, if there is
one. -/
theorem itemsOf_of_not_debug (hdebug : env.debug = false)
    (plugin : InventoryPlugin) (sourceType : SourceType) :
    env.itemsOf host plugin sourceType =
      .ok ((env.callTo? host plugin sourceType).toList.flatMap fun call =>
        (plugin.function call).items) := by
  rw [callTo?_eq]
  unfold itemsOf
  cases Providers.collect? env.providers plugin.sections
      ⟨host, sourceType⟩ with
  | none => rfl
  | some collected =>
      obtain ⟨sections, infos⟩ := collected
      simp only [hdebug, Option.map_some, Option.toList_some,
        List.flatMap_singleton]
      cases plugin.function _ <;> rfl

/-- The items of a plugin, of the host before its management board. -/
theorem itemsOf_both_of_not_debug (hdebug : env.debug = false)
    (plugin : InventoryPlugin) :
    (do
      let ofHost ← env.itemsOf host plugin .host
      let ofManagement ← env.itemsOf host plugin .management
      pure (ofHost ++ ofManagement)) = Except.ok (ε := Abort)
        ((env.callsTo host plugin).flatMap fun call =>
          (plugin.function call).items) := by
  rw [itemsOf_of_not_debug hdebug, itemsOf_of_not_debug hdebug, callsTo,
    List.flatMap_append]
  rfl

/-- Without debug mode, the plugins give the items of the successful calls. -/
theorem items_of_not_debug (hdebug : env.debug = false) :
    env.items host = .ok (env.itemsFound host) := by
  have hwalk : (env.plugins.values.mapM fun plugin => do
      let ofHost ← env.itemsOf host plugin .host
      let ofManagement ← env.itemsOf host plugin .management
      pure (ofHost ++ ofManagement)) = .ok (env.plugins.values.map
        fun plugin => (env.callsTo host plugin).flatMap fun call =>
          (plugin.function call).items) := by
    rw [mapM_eq_ok_iff, List.forall₂_map_right_iff, List.forall₂_same]
    exact fun plugin _ => itemsOf_both_of_not_debug hdebug plugin
  unfold items
  rw [hwalk]
  rfl

/-- Without debug mode, only items that contradict one another stand in the
way of the status data of a host. -/
theorem statusTree_of_not_debug (hdebug : env.debug = false) :
    env.statusTree host =
      match StatusTree.ofItems (env.itemsFound host) with
      | .ok tree => .ok tree
      | .error conflict => .error (.error (.mismatch conflict)) := by
  unfold statusTree
  rw [items_of_not_debug hdebug]
  rfl

/-- What becomes of status data in memory without debug mode. -/
theorem update_memory (env : InventoryEnvironment)
    (hdebug : env.debug = false) (wanted : Bool)
    (trees : SortedMap HostName StatusTree) :
    env.update host wanted (.memory trees) =
      if wanted then
        match StatusTree.ofItems (env.itemsFound host) with
        | .ok tree =>
          .ok (.memory (if tree.isEmpty then trees else trees.insert host tree))
        | .error conflict => .error (.error (.mismatch conflict))
      else .ok (.memory (trees.erase host)) := by
  unfold update
  cases wanted with
  | false => rfl
  | true =>
      rw [statusTree_of_not_debug hdebug]
      cases StatusTree.ofItems (env.itemsFound host) with
      | error conflict => rfl
      | ok tree =>
          simp only [if_true]
          show (if tree.isEmpty = true then _ else _) = _
          by_cases hempty : tree.isEmpty = true
          · rw [if_pos hempty, if_pos hempty]
            rfl
          · rw [if_neg hempty, if_neg hempty]
            rfl

-- ==================================================== fewer plugins

/-- A plugin is of no use for a host if each call that is made to it fails. -/
def Useless (env : InventoryEnvironment) (host : HostName)
    (plugin : InventoryPlugin) : Prop :=
  ∀ call ∈ env.callsTo host plugin, ∃ message,
    plugin.function call = .failed message
      ∨ plugin.function call = .crashed message

/-- A plugin that is of no use gives no items. -/
theorem Useless.items_eq_nil {plugin : InventoryPlugin}
    (h : env.Useless host plugin) :
    ((env.callsTo host plugin).flatMap fun call =>
      (plugin.function call).items) = [] := by
  rw [List.flatMap_eq_nil_iff]
  intro call hcall
  obtain ⟨message, hfailed | hcrashed⟩ := h call hcall
  · rw [hfailed]
    rfl
  · rw [hcrashed]
    rfl

/-- The items are the same without a plugin that is of no use. -/
theorem itemsFound_erase {name : String}
    (huseless : ∀ plugin, env.plugins.get? name = some plugin →
      env.Useless host plugin) :
    { env with plugins := env.plugins.erase name }.itemsFound host
      = env.itemsFound host :=
  SortedMap.flatMap_values_erase fun plugin hplugin =>
    (huseless plugin hplugin).items_eq_nil

/-- What becomes of status data is the same without a plugin that is of no
use, if the status data is wanted at all. -/
theorem update_erase (env : InventoryEnvironment)
    (hdebug : env.debug = false) {name : String} {wanted : Bool}
    (store : TreeStore)
    (huseless : wanted = true → ∀ plugin,
      env.plugins.get? name = some plugin → env.Useless host plugin) :
    { env with plugins := env.plugins.erase name }.update host wanted store
      = env.update host wanted store := by
  unfold update
  cases wanted with
  | false => rfl
  | true =>
      have hdebug' : { env with
        plugins := env.plugins.erase name }.debug = false := hdebug
      rw [statusTree_of_not_debug hdebug, statusTree_of_not_debug hdebug',
        itemsFound_erase (huseless rfl)]

end InventoryEnvironment

-- ==================================================== a whole run

namespace Engine

variable {engine : Engine} {request : RunRequest} {fetched : List Fetched}

/-- What the inventory of a run goes by. -/
def inventoryOf (engine : Engine) (fetched : List Fetched) :
    InventoryEnvironment where
  providers := engine.providers (fetched.map parseFetched)
  plugins := engine.inventory
  parameters := engine.inventoryParameters
  debug := engine.debug

/-- A run calls inventory plugins: its checks go through, and it is about all
plugins, on a host that is no cluster and whose status data is wanted. -/
structure CallsInventory (engine : Engine) (request : RunRequest)
    (fetched : List Fetched) (state : RunState) : Prop where
  checks : ∃ outcomes,
    (engine.checksOf request fetched state).1 = .ok outcomes
  full : request.plan.selection.isEverything = true
  real : request.plan.topology.isCluster = false
  wanted : request.inventory.statusData = true

/-- The inventory at the end of a run, said with what it goes by. -/
theorem updateInventory_eq (engine : Engine) (request : RunRequest)
    (fetched : List Fetched) (trees : TreeStore) :
    engine.updateInventory request
        (engine.providers (fetched.map parseFetched)) trees =
      if request.plan.selection.isEverything then
        (engine.inventoryOf fetched).update request.plan.topology.host
          (!request.plan.topology.isCluster && request.inventory.statusData)
          trees
      else .ok trees := rfl

/-- The inventory at the end of a run is the same without a plugin that is of
no use, and where no plugin is called, without any one of them. -/
theorem updateInventory_erase (request : RunRequest) (fetched : List Fetched)
    (hdebug : engine.debug = false) {name : String} (trees : TreeStore)
    (huseless : request.plan.selection.isEverything = true →
      request.plan.topology.isCluster = false →
      request.inventory.statusData = true →
      ∀ plugin, engine.inventory.get? name = some plugin →
        (engine.inventoryOf fetched).Useless request.plan.topology.host
          plugin) :
    let fewer := { engine with inventory := engine.inventory.erase name }
    fewer.updateInventory request
        (fewer.providers (fetched.map parseFetched)) trees
      = engine.updateInventory request
        (engine.providers (fetched.map parseFetched)) trees := by
  intro fewer
  unfold updateInventory
  by_cases hfull : request.plan.selection.isEverything = true
  · rw [if_pos hfull, if_pos hfull]
    apply InventoryEnvironment.update_erase (engine.inventoryOf fetched) hdebug
    intro hwanted
    rw [Bool.and_eq_true, Bool.not_eq_true'] at hwanted
    exact huseless hfull hwanted.1 hwanted.2
  · rw [if_neg hfull, if_neg hfull]

section

variable [PatternLanguage]

/-- A run is the same without an inventory plugin that is of no use. -/
theorem run_erase (hdebug : engine.debug = false) {name : String}
    (state : RunState)
    (huseless : engine.CallsInventory request fetched state →
      ∀ plugin, engine.inventory.get? name = some plugin →
        (engine.inventoryOf fetched).Useless request.plan.topology.host
          plugin) :
    { engine with inventory := engine.inventory.erase name }.run request
        fetched state
      = engine.run request fetched state := by
  -- the checks do not look at the registry
  have hsame : { engine with
      inventory := engine.inventory.erase name }.checksOf request fetched state
        = engine.checksOf request fetched state := rfl
  cases hchecks : engine.checksOf request fetched state with
  | mk checks final =>
      rw [hchecks] at hsame
      cases checks with
      | error abort =>
          rw [run_of_checks_error hchecks, run_of_checks_error hsame]
      | ok outcomes =>
          rw [run_of_checks_ok hchecks, run_of_checks_ok hsame]
          have hupdate := updateInventory_erase request fetched hdebug
            state.trees fun hfull hreal hwanted =>
              huseless ⟨⟨outcomes, by rw [hchecks]⟩, hfull, hreal, hwanted⟩
          unfold conclude
          simp only [hupdate]
          rfl

/-- What a run that goes through leaves of status data in memory: there are
three kinds of runs. -/
theorem run_trees {state : RunState} {result : HostResult}
    {trees : SortedMap HostName StatusTree} (hdebug : engine.debug = false)
    (hmemory : state.trees = .memory trees)
    (hok : (engine.run request fetched state).1 = .ok result) :
    ∃ trees', (engine.run request fetched state).2.trees = .memory trees'
      ∧ ((request.plan.selection.isEverything = false ∧ trees' = trees)
        ∨ (request.plan.selection.isEverything = true
          ∧ (request.plan.topology.isCluster = true
            ∨ request.inventory.statusData = false)
          ∧ trees' = trees.erase request.plan.topology.host)
        ∨ (request.plan.selection.isEverything = true
          ∧ request.plan.topology.isCluster = false
          ∧ request.inventory.statusData = true
          ∧ ∃ tree, StatusTree.ofItems ((engine.inventoryOf
              fetched).itemsFound request.plan.topology.host) = .ok tree
            ∧ trees' = if tree.isEmpty then trees
              else trees.insert request.plan.topology.host tree)) := by
  have hrun : engine.run request fetched state
      = (.ok result, (engine.run request fetched state).2) := Prod.ext hok rfl
  obtain ⟨outcomes, final, found, -, hupdate, -, hafter⟩ := run_ok hrun
  rw [hafter]
  rw [hmemory, updateInventory_eq,
    InventoryEnvironment.update_memory (engine.inventoryOf fetched)
      hdebug] at hupdate
  cases hfull : request.plan.selection.isEverything with
  | false =>
      rw [hfull] at hupdate
      cases hupdate
      exact ⟨trees, rfl, .inl ⟨rfl, rfl⟩⟩
  | true =>
      rw [hfull, if_pos rfl] at hupdate
      cases hcluster : request.plan.topology.isCluster with
      | true =>
          rw [hcluster] at hupdate
          cases hupdate
          exact ⟨_, rfl, .inr (.inl ⟨rfl, .inl rfl, rfl⟩)⟩
      | false =>
          cases hwanted : request.inventory.statusData with
          | false =>
              rw [hcluster, hwanted] at hupdate
              cases hupdate
              exact ⟨_, rfl, .inr (.inl ⟨rfl, .inr rfl, rfl⟩)⟩
          | true =>
              rw [hcluster, hwanted] at hupdate
              simp only [Bool.not_false, Bool.and_self, if_true] at hupdate
              split at hupdate
              case h_1 tree htree =>
                cases hupdate
                exact ⟨_, rfl, .inr (.inr ⟨rfl, rfl, rfl, tree, htree, rfl⟩)⟩
              case h_2 => cases hupdate

/-- What the inventory at the end of a run does, without debug mode.

If the run goes through and status data is kept in memory, that of other hosts
stays. So does that of its own host if the run is restricted to some plugins.
A run about all plugins leaves none if its host is a cluster, or if no status
data is wanted. Else the items of the successful calls make a tree, and
exactly that is stored; if it is empty, all stays as it is.

A plugin that is of no use for the host may be left out: the run comes to the
same and leaves the same, whether it goes through or not, and wherever status
data is kept. If the run calls no inventory plugins, each of them may. -/
theorem run_inventory_effect (engine : Engine) (request : RunRequest)
    (fetched : List Fetched) (state : RunState)
    (hdebug : engine.debug = false) :
    let host := request.plan.topology.host
    let env := engine.inventoryOf fetched
    let run := engine.run request fetched state
    (∀ trees result, state.trees = .memory trees → run.1 = .ok result →
      ∃ trees', run.2.trees = .memory trees'
        ∧ (∀ other, other ≠ host → trees'.get? other = trees.get? other)
        ∧ (request.plan.selection.isEverything = false →
          trees'.get? host = trees.get? host)
        ∧ (request.plan.selection.isEverything = true →
          request.plan.topology.isCluster = true
              ∨ request.inventory.statusData = false →
          trees'.get? host = none)
        ∧ (request.plan.selection.isEverything = true →
          request.plan.topology.isCluster = false →
          request.inventory.statusData = true →
          ∃ tree, StatusTree.ofItems (env.itemsFound host) = .ok tree
            ∧ (tree.isEmpty = false → trees'.get? host = some tree)
            ∧ (tree.isEmpty = true → trees' = trees)))
      ∧ ∀ name,
        (engine.CallsInventory request fetched state →
          ∀ plugin, engine.inventory.get? name = some plugin →
            ∀ call ∈ env.callsTo host plugin, ∃ message,
              plugin.function call = .failed message
                ∨ plugin.function call = .crashed message) →
        { engine with inventory := engine.inventory.erase name }.run request
          fetched state = run := by
  intro host env run
  refine ⟨fun trees result hmemory hok => ?_,
    fun name huseless => run_erase hdebug state huseless⟩
  obtain ⟨trees', htrees', hcases⟩ := run_trees hdebug hmemory hok
  refine ⟨trees', htrees', ?_⟩
  obtain ⟨hpart, rfl⟩ | ⟨hfull, hunwanted, rfl⟩
    | ⟨hfull, hreal, hwanted, tree, htree, rfl⟩ := hcases
  · exact ⟨fun _ _ => rfl, fun _ => rfl,
      fun hfull => absurd (hpart.symm.trans hfull) Bool.false_ne_true,
      fun hfull => absurd (hpart.symm.trans hfull) Bool.false_ne_true⟩
  · refine ⟨fun other hother => ?_, fun hpart => ?_, fun _ _ => ?_,
      fun _ hreal hwanted => ?_⟩
    · rw [SortedMap.get?_erase, if_neg hother]
    · exact absurd (hpart.symm.trans hfull) Bool.false_ne_true
    · rw [SortedMap.get?_erase, if_pos rfl]
    · simp [hreal, hwanted] at hunwanted
  · refine ⟨fun other hother => ?_, fun hpart => ?_, fun _ hunwanted => ?_,
      fun _ _ _ => ⟨tree, htree, fun hsome => ?_, fun hempty => ?_⟩⟩
    · split
      · rfl
      · rw [SortedMap.get?_insert, if_neg hother]
    · exact absurd (hpart.symm.trans hfull) Bool.false_ne_true
    · simp [hreal, hwanted] at hunwanted
    · rw [hsome, if_neg Bool.false_ne_true, SortedMap.get?_insert, if_pos rfl]
    · rw [if_pos hempty]

end

/-- An inventory plugin that always breaks off. -/
def fan : InventoryPlugin where
  name := "fan"
  sections := ["load"]
  function := fun _ => .crashed "no fan"

/-- An engine with that plugin, and with one that finds something. -/
def fanEngine : Engine :=
  { sharedEngine with inventory := sharedEngine.inventory.insert "fan" fan }

/-- The plugin that breaks off is called, but what the other one finds is
stored all the same, next to what there is of another host; without it the run
is the same. -/
theorem run_inventory_effect_fan :
    let request : RunRequest :=
      { plan := { topology := { host := "alpha" }, services := [loadService] }
        inventory := { statusData := true } }
    let fetched : List Fetched :=
      [(.agent "alpha", .ok "<<<load>>>\n1\n".toUTF8)]
    let env := fanEngine.inventoryOf fetched
    let before : RunState :=
      { trees := .memory (SortedMap.empty.insert "beta" ∅) }
    let run := fanEngine.run request fetched before
    fanEngine.debug = false
      ∧ (env.callsTo "alpha" fan).length = 1
      ∧ (∃ result trees' tree, run.1 = .ok result
        ∧ run.2.trees = .memory trees'
        ∧ StatusTree.ofItems (env.itemsFound "alpha") = .ok tree
        ∧ tree.nodes.keys = ["hardware"]
        ∧ trees'.get? "alpha" = some tree
        ∧ trees'.get? "beta" = some ∅)
      ∧ { fanEngine with inventory := fanEngine.inventory.erase "fan" }.run
          request fetched before = run := by
  intro request fetched env before run
  obtain ⟨heffect, herase⟩ :=
    run_inventory_effect fanEngine request fetched before rfl
  refine ⟨rfl, by decide +kernel, ?_, herase "fan" fun _ plugin hplugin => ?_⟩
  · have hgoes : run.1.toOption.isSome = true := by decide +kernel
    have hkeys : (run.2.trees.get? "alpha").map (·.nodes.keys)
        = some ["hardware"] := by decide +kernel
    cases hok : run.1 with
    | error abort =>
        rw [hok] at hgoes
        cases hgoes
    | ok result =>
        obtain ⟨trees', htrees', hothers, -, -, hown⟩ :=
          heffect _ result rfl hok
        obtain ⟨tree, htree, hstored, hempty⟩ := hown rfl rfl rfl
        rw [htrees'] at hkeys
        have hbeta : trees'.get? "beta" = some ∅ :=
          (hothers "beta" (by decide)).trans rfl
        cases h : tree.isEmpty with
        | true =>
            -- then nothing would have been stored for the host
            rw [hempty h] at hkeys
            cases hkeys
        | false =>
            have halpha := hstored h
            refine ⟨result, trees', tree, rfl, htrees', htree, ?_, halpha,
              hbeta⟩
            rw [TreeStore.get?, halpha] at hkeys
            exact Option.some.inj hkeys
  · rw [fanEngine, SortedMap.get?_insert, if_pos rfl] at hplugin
    cases hplugin
    exact fun _ _ => ⟨"no fan", .inr rfl⟩

end Engine

end HostWatch
