/-
Runs on different hosts do not see each other.

All hosts share what is remembered, the status data, the crash reports and
the list of what has been passed on. A run changes the first two under the
name of its own host only (`run_frame`), and adds to the other two. What it
reads is what is stored under that name, and the number of reports, which
goes into the identities of new ones and nowhere else; so a run that finds
the same under the name of its host does the same, whatever the others have
left behind (`run_alike`).

From these two the order of runs on two hosts is immaterial
(`hosts_independent`): each finds what it would have found without the
other. It does not matter that one of the hosts may be a cluster and the
other one a node of it. The cluster reads what the node has delivered, but
that is part of what it is run on; whatever it remembers about the node it
remembers under its own name.
-/
import HostWatch.Proofs.Check.OwnHost
import HostWatch.Proofs.HostReport

namespace HostWatch

-- ==================================================== what is passed on

/-- Two results that are passed on are the same, but for the identity of the
crash report that they name, if any. -/
def Submission.SameUpToId (s s' : Submission) : Prop :=
  s = s' ∨ ∃ (report : CrashReport) (id : String),
    s.result = report.result
      ∧ s' = { s with result := { report with id }.result }

/-- Results that are the same are passed on as the same. -/
private theorem ServiceOutcome.SameUpToId.submission
    {outcome outcome' : ServiceOutcome} (h : outcome.SameUpToId outcome') :
    outcome.submission.SameUpToId outcome'.submission := by
  rcases h with rfl | ⟨service, report, id, info, rfl, rfl⟩
  · exact Or.inl rfl
  · exact Or.inr ⟨report, id, rfl, rfl⟩

/-- Lists of results that are the same are passed on as the same. -/
private theorem submissions_alike {outcomes outcomes' : List ServiceOutcome}
    (h : List.Forall₂ ServiceOutcome.SameUpToId outcomes outcomes') :
    List.Forall₂ Submission.SameUpToId (outcomes.map (·.submission))
      (outcomes'.map (·.submission)) := by
  rw [List.forall₂_map_left_iff, List.forall₂_map_right_iff]
  exact h.imp fun _ _ hsame => hsame.submission

/-- Results that are the same tell the same of the data of their services. -/
private theorem received_of_sameUpToId
    {outcomes outcomes' : List ServiceOutcome}
    (h : List.Forall₂ ServiceOutcome.SameUpToId outcomes outcomes') :
    CheckPlan.received outcomes = CheckPlan.received outcomes' := by
  induction h with
  | nil => rfl
  | cons hsame _ ih =>
      show (_, _) :: CheckPlan.received _ = (_, _) :: CheckPlan.received _
      rcases hsame with rfl | ⟨service, report, id, info, rfl, rfl⟩
      · rw [ih]
      · rw [ih]
        rfl

namespace RunState

/-- The status data of all hosts is kept in memory. -/
def InMemory (s : RunState) : Prop := ∃ trees, s.trees = .memory trees

/-- Two states hold the same for a host: what its services remember, and its
status data. -/
structure AgreeOn (host : HostName) (s s' : RunState) : Prop where
  store : ValueStore.AgreeOn host s.checks.store s'.checks.store
  tree : s.trees.get? host = s'.trees.get? host

theorem AgreeOn.symm {host : HostName} {s s' : RunState}
    (h : s.AgreeOn host s') : s'.AgreeOn host s :=
  ⟨fun key hkey => (h.store key hkey).symm, h.tree.symm⟩

theorem AgreeOn.trans {host : HostName} {s s' s'' : RunState}
    (h : s.AgreeOn host s') (h' : s'.AgreeOn host s'') : s.AgreeOn host s'' :=
  ⟨fun key hkey => (h.store key hkey).trans (h'.store key hkey),
    h.tree.trans h'.tree⟩

/-- Two runs, each from one state to another one, pass on the same and report
the same, the identities of crash reports apart. -/
structure AddAlike (before before' after after' : RunState) : Prop where
  submitted : ∃ added added', after.submitted = before.submitted ++ added
    ∧ after'.submitted = before'.submitted ++ added'
    ∧ List.Forall₂ (List.Forall₂ Submission.SameUpToId) added added'
  crashes : ∃ added added',
    after.checks.crashes = before.checks.crashes ++ added
      ∧ after'.checks.crashes = before'.checks.crashes ++ added'
      ∧ added.map (·.anonymous) = added'.map (·.anonymous)

end RunState

namespace Engine

variable {engine : Engine} {request : RunRequest} {fetched : List Fetched}

-- ==================================================== the inventory

/-- The inventory of a run either fails, whatever is stored, or changes the
status data of the run's host in a way that depends on that status data. -/
private theorem updateInventory_memory (engine : Engine) (request : RunRequest)
    (providers : Providers) :
    (∃ abort, ∀ trees,
        engine.updateInventory request providers (.memory trees)
          = .error abort)
      ∨ ∃ change : Option StatusTree → Option StatusTree, ∀ trees, ∃ trees',
        engine.updateInventory request providers (.memory trees)
            = .ok (.memory trees')
          ∧ ∀ host, trees'.get? host
            = if host = request.plan.topology.host then
                change (trees.get? host)
              else trees.get? host := by
  have hkept : ∀ trees : SortedMap HostName StatusTree, ∀ host,
      trees.get? host = if host = request.plan.topology.host then
        id (trees.get? host) else trees.get? host :=
    fun trees host => (ite_self _).symm
  unfold updateInventory
  split
  case isFalse => exact Or.inr ⟨id, fun trees => ⟨trees, rfl, hkept trees⟩⟩
  case isTrue =>
    simp only [InventoryEnvironment.update]
    split
    case isTrue =>
      -- no status data is wanted
      refine Or.inr ⟨fun _ => none, fun trees => ⟨_, rfl, fun host => ?_⟩⟩
      exact trees.get?_erase _ host
    case isFalse =>
      generalize InventoryEnvironment.statusTree _ _ = found
      cases found with
      | error abort => exact Or.inl ⟨abort, fun trees => rfl⟩
      | ok tree =>
          by_cases hempty : tree.isEmpty = true
          · refine Or.inr ⟨id, fun trees => ⟨trees, ?_, hkept trees⟩⟩
            show (if tree.isEmpty = true then _ else _) = _
            rw [if_pos hempty]
            rfl
          · refine Or.inr ⟨fun _ => some tree, fun trees => ⟨_, ?_, fun host =>
              trees.get?_insert _ host tree⟩⟩
            show (if tree.isEmpty = true then _ else _) = _
            rw [if_neg hempty]
            rfl

/-- The second part of a run keeps the status data in memory, and that of other
hosts as it is. -/
private theorem conclude_frame [PatternLanguage]
    {outcomes : List ServiceOutcome} {state : RunState} (hmemory : state.InMemory) :
    (engine.conclude request fetched outcomes state).2.InMemory
      ∧ ∀ host, host ≠ request.plan.topology.host →
        state.trees.get? host
          = (engine.conclude request fetched outcomes state).2.trees.get?
            host := by
  obtain ⟨trees, htrees⟩ := hmemory
  unfold conclude
  rcases engine.updateInventory_memory request
      (engine.providers (fetched.map parseFetched)) with
    ⟨abort, hfails⟩ | ⟨change, hchanges⟩
  · simp only [htrees, hfails]
    exact ⟨⟨trees, htrees⟩, fun _ _ => trivial⟩
  · obtain ⟨trees', hupdate, hget⟩ := hchanges trees
    simp only [htrees, hupdate]
    refine ⟨⟨trees', rfl⟩, fun host hhost => ?_⟩
    have htree := hget host
    rw [if_neg hhost] at htree
    exact htree.symm

/-- The second parts of two runs with the same results come to the same, if
they find the same status data of the host, and leave the same. -/
private theorem conclude_alike [PatternLanguage] (engine : Engine)
    (request : RunRequest) (fetched : List Fetched)
    {outcomes outcomes' : List ServiceOutcome} {state state' : RunState} (hmemory : state.InMemory)
    (hmemory' : state'.InMemory)
    (htree : state.trees.get? request.plan.topology.host
      = state'.trees.get? request.plan.topology.host)
    (hsame : List.Forall₂ ServiceOutcome.SameUpToId outcomes outcomes') :
    (engine.conclude request fetched outcomes state).1
        = (engine.conclude request fetched outcomes' state').1
      ∧ (engine.conclude request fetched outcomes state).2.trees.get?
          request.plan.topology.host
        = (engine.conclude request fetched outcomes' state').2.trees.get?
          request.plan.topology.host := by
  obtain ⟨trees, htrees⟩ := hmemory
  obtain ⟨trees', htrees'⟩ := hmemory'
  rw [htrees, htrees'] at htree
  have htotal : ∀ sources providers,
      HostReport.total sources providers outcomes request.exitSpec
        = HostReport.total sources providers outcomes' request.exitSpec := by
    intro sources providers
    unfold HostReport.total
    rw [HostReport.ofMissingData_congr request.exitSpec
      (received_of_sameUpToId hsame)]
  unfold conclude
  rcases engine.updateInventory_memory request
      (engine.providers (fetched.map parseFetched)) with
    ⟨abort, hfails⟩ | ⟨change, hchanges⟩
  · simp only [htrees, htrees', hfails]
    exact ⟨trivial, htree⟩
  · obtain ⟨found, hupdate, hget⟩ := hchanges trees
    obtain ⟨found', hupdate', hget'⟩ := hchanges trees'
    simp only [htrees, htrees', hupdate, hupdate', htotal]
    refine ⟨trivial, ?_⟩
    show found.get? _ = found'.get? _
    rw [hget, hget', if_pos rfl, if_pos rfl]
    exact congrArg change htree

-- ==================================================== one run

/-- The checks of a run leave what other hosts remember alone. -/
private theorem checksOf_frame {state : RunState} {host : HostName}
    (hhost : host ≠ request.plan.topology.host) :
    ValueStore.AgreeOn host state.checks.store
      (engine.checksOf request fetched state).2.store := by
  rintro key rfl
  unfold checksOf CheckPlan.check
  rw [CheckPlan.checkFrom_frame hhost]

/-- The checks of two runs on a host whose services remember the same have the
same results, and leave the same. -/
private theorem checksOf_alike (engine : Engine) (request : RunRequest)
    (fetched : List Fetched) {state state' : RunState}
    (hagree : ValueStore.AgreeOn request.plan.topology.host state.checks.store
      state'.checks.store) :
    ServiceOutcome.SameAnswers (engine.checksOf request fetched state).1
        (engine.checksOf request fetched state').1
      ∧ CheckState.Alike request.plan.topology.host
        state.checks.crashes state'.checks.crashes
        (engine.checksOf request fetched state).2
        (engine.checksOf request fetched state').2 :=
  CheckPlan.checkFrom_alike ⟨hagree, rfl, [], [], (List.append_nil _).symm,
    (List.append_nil _).symm, rfl⟩

section

variable [PatternLanguage]

/-- A run keeps the status data in memory, and leaves what is stored for other
hosts alone. -/
theorem run_frame {state : RunState} (hmemory : state.InMemory) :
    (engine.run request fetched state).2.InMemory
      ∧ ∀ host, host ≠ request.plan.topology.host →
        state.AgreeOn host (engine.run request fetched state).2 := by
  have hstore : ∀ host, host ≠ request.plan.topology.host →
      ValueStore.AgreeOn host state.checks.store
        (engine.run request fetched state).2.checks.store := by
    intro host hhost
    rw [run_checks]
    exact checksOf_frame hhost
  suffices htrees : (engine.run request fetched state).2.InMemory
      ∧ ∀ host, host ≠ request.plan.topology.host →
        state.trees.get? host
          = (engine.run request fetched state).2.trees.get? host from
    ⟨htrees.1, fun host hhost => ⟨hstore host hhost, htrees.2 host hhost⟩⟩
  cases hchecks : engine.checksOf request fetched state with
  | mk checks final =>
      cases checks with
      | error abort =>
          rw [run_of_checks_error hchecks]
          exact ⟨hmemory, fun _ _ => rfl⟩
      | ok outcomes =>
          rw [run_of_checks_ok hchecks]
          exact conclude_frame hmemory

/-- Two runs on a host that find the same for it come to the same, leave the
same for it, and pass on and report the same. -/
theorem run_alike {state state' : RunState} (hmemory : state.InMemory)
    (hmemory' : state'.InMemory)
    (hagree : state.AgreeOn request.plan.topology.host state') :
    let after := engine.run request fetched state
    let after' := engine.run request fetched state'
    after.1 = after'.1
      ∧ after.2.AgreeOn request.plan.topology.host after'.2
      ∧ RunState.AddAlike state state' after.2 after'.2 := by
  intro after after'
  obtain ⟨hanswers, halike⟩ :=
    engine.checksOf_alike request fetched hagree.store
  have hstore : ValueStore.AgreeOn request.plan.topology.host
      after.2.checks.store after'.2.checks.store := by
    unfold after after'
    rw [run_checks, run_checks]
    exact halike.store
  have hcrashes : ∃ added added',
      after.2.checks.crashes = state.checks.crashes ++ added
        ∧ after'.2.checks.crashes = state'.checks.crashes ++ added'
        ∧ added.map (·.anonymous) = added'.map (·.anonymous) := by
    unfold after after'
    rw [run_checks, run_checks]
    exact halike.crashes
  have hsubmitted := engine.run_submitted request fetched state
  have hsubmitted' := engine.run_submitted request fetched state'
  suffices hrest : after.1 = after'.1
      ∧ after.2.trees.get? request.plan.topology.host
        = after'.2.trees.get? request.plan.topology.host
      ∧ ∃ added added', after.2.submitted = state.submitted ++ added
        ∧ after'.2.submitted = state'.submitted ++ added'
        ∧ List.Forall₂ (List.Forall₂ Submission.SameUpToId) added added' from
    ⟨hrest.1, ⟨hstore, hrest.2.1⟩, ⟨hrest.2.2, hcrashes⟩⟩
  cases hchecks : engine.checksOf request fetched state with
  | mk checks final =>
      cases hchecks' : engine.checksOf request fetched state' with
      | mk checks' final' =>
          rw [hchecks] at hanswers hsubmitted
          rw [hchecks'] at hanswers hsubmitted'
          unfold after after' at *
          cases checks with
          | error abort =>
              cases checks' with
              | ok outcomes' => cases hanswers
              | error abort' =>
                  refine ⟨?_, ?_, [], [], hsubmitted, hsubmitted', .nil⟩
                  · rw [run_of_checks_error hchecks,
                      run_of_checks_error hchecks']
                    exact congrArg Except.error hanswers
                  · rw [run_of_checks_error hchecks,
                      run_of_checks_error hchecks']
                    exact hagree.tree
          | ok outcomes =>
              cases checks' with
              | error abort' => cases hanswers
              | ok outcomes' =>
                  have hrest : (engine.run request fetched state).1
                        = (engine.run request fetched state').1
                      ∧ (engine.run request fetched state).2.trees.get?
                          request.plan.topology.host
                        = (engine.run request fetched state').2.trees.get?
                          request.plan.topology.host := by
                    rw [run_of_checks_ok hchecks, run_of_checks_ok hchecks']
                    refine engine.conclude_alike request fetched ?_ ?_ ?_
                      hanswers
                    · exact hmemory
                    · exact hmemory'
                    · exact hagree.tree
                  exact ⟨hrest.1, hrest.2, _, _, hsubmitted, hsubmitted',
                    .cons (submissions_alike hanswers) .nil⟩

-- ==================================================== the main statement

/-- Two runs on different hosts may be made in either order. Each comes to the
same result, or breaks off in the same way; it passes on the same results and
makes the same crash reports, their identities apart. In the end the same is
remembered by all services, and the status data of all hosts is the same. -/
theorem hosts_independent (engine : Engine) (a b : RunRequest)
    (fetchedA fetchedB : List Fetched) (state : RunState)
    (hhosts : a.plan.topology.host ≠ b.plan.topology.host)
    (hmemory : state.InMemory) :
    let firstA := engine.run a fetchedA state
    let thenB := engine.run b fetchedB firstA.2
    let firstB := engine.run b fetchedB state
    let thenA := engine.run a fetchedA firstB.2
    firstA.1 = thenA.1 ∧ firstB.1 = thenB.1
      ∧ RunState.AddAlike state firstB.2 firstA.2 thenA.2
      ∧ RunState.AddAlike state firstA.2 firstB.2 thenB.2
      ∧ thenB.2.checks.store = thenA.2.checks.store
      ∧ thenB.2.trees = thenA.2.trees
      ∧ (thenB.2.checks.crashes.map (·.anonymous)).Perm
        (thenA.2.checks.crashes.map (·.anonymous)) := by
  intro firstA thenB firstB thenA
  obtain ⟨hmemoryA, hframeA⟩ : firstA.2.InMemory
      ∧ ∀ host, host ≠ a.plan.topology.host → state.AgreeOn host firstA.2 :=
    run_frame hmemory
  obtain ⟨hmemoryB, hframeB⟩ : firstB.2.InMemory
      ∧ ∀ host, host ≠ b.plan.topology.host → state.AgreeOn host firstB.2 :=
    run_frame hmemory
  obtain ⟨hmemoryAB, hframeAB⟩ : thenB.2.InMemory
      ∧ ∀ host, host ≠ b.plan.topology.host → firstA.2.AgreeOn host thenB.2 :=
    run_frame hmemoryA
  obtain ⟨hmemoryBA, hframeBA⟩ : thenA.2.InMemory
      ∧ ∀ host, host ≠ a.plan.topology.host → firstB.2.AgreeOn host thenA.2 :=
    run_frame hmemoryB
  obtain ⟨hresultA, hownA, haddA⟩ : firstA.1 = thenA.1
      ∧ firstA.2.AgreeOn a.plan.topology.host thenA.2
      ∧ RunState.AddAlike state firstB.2 firstA.2 thenA.2 :=
    run_alike hmemory hmemoryB (hframeB _ hhosts)
  obtain ⟨hresultB, hownB, haddB⟩ : firstB.1 = thenB.1
      ∧ firstB.2.AgreeOn b.plan.topology.host thenB.2
      ∧ RunState.AddAlike state firstA.2 firstB.2 thenB.2 :=
    run_alike hmemory hmemoryA (hframeA _ hhosts.symm)
  -- each host has been left alone by the run on the other one
  have hagree : ∀ host, thenB.2.AgreeOn host thenA.2 := by
    intro host
    by_cases hA : host = a.plan.topology.host
    · subst hA
      exact (hframeAB _ hhosts).symm.trans hownA
    · by_cases hB : host = b.plan.topology.host
      · subst hB
        exact hownB.symm.trans (hframeBA _ hhosts.symm)
      · exact (((hframeAB _ hB).symm.trans (hframeA _ hA).symm).trans
          (hframeB _ hB)).trans (hframeBA _ hA)
  refine ⟨hresultA, hresultB, haddA, haddB, ?_, ?_, ?_⟩
  · exact ValueStore.ext_get? fun key => (hagree key.host).store key rfl
  · obtain ⟨trees, htrees⟩ := hmemoryAB
    obtain ⟨trees', htrees'⟩ := hmemoryBA
    have hget : ∀ host, trees.get? host = trees'.get? host := by
      intro host
      have htree := (hagree host).tree
      rw [htrees, htrees'] at htree
      exact htree
    rw [htrees, htrees', SortedMap.ext_get? hget]
  · obtain ⟨ofA, ofA', hfirstA, hthenA, hsameA⟩ := haddA.crashes
    obtain ⟨ofB, ofB', hfirstB, hthenB, hsameB⟩ := haddB.crashes
    rw [hthenA, hthenB, hfirstA, hfirstB]
    simp only [List.map_append, hsameA, hsameB, List.append_assoc]
    exact List.Perm.append_left _ List.perm_append_comm

end

/-- An engine with a plugin that remembers that it was called and breaks off,
and an inventory plugin that finds something. -/
def sharedEngine : Engine where
  catalog := .empty
  checks := .ofList [
    { name := "load", sections := ["load"],
      function := fun _ _ values =>
        { ending := .crashed "boom"
          values := values.insert "called" (.bool true) } }]
  inventory := SortedMap.empty.insert "board"
    { name := "board", sections := ["load"],
      function := fun _ => .found
        [.attributes ["hardware"] (SortedMap.ofList [("boards", .int 1)])] }
  inventoryParameters := fun _ _ => default
  periods := fun _ => true
  effectiveHost := fun node _ => node
  clusterMode := fun _ _ => .worst
  crashId := CrashReport.idOfNumber
  time := "2024-01-01T00:00:00Z"

/-- A cluster and one of its nodes may be run in either order: what they
remember is kept apart, and only the order of the reports tells which of them
was the first. -/
theorem hosts_independent_cluster_and_node :
    let pair : RunRequest :=
      { plan := { topology := pairTopology, services := [loadService] } }
    let alpha : RunRequest :=
      { plan := { topology := { host := "alpha" }, services := [loadService] }
        inventory := { statusData := true } }
    let fetched : List Fetched :=
      [(.agent "alpha", .ok "<<<load>>>\n1\n".toUTF8)]
    let firstPair := sharedEngine.run pair fetched {}
    let thenAlpha := sharedEngine.run alpha fetched firstPair.2
    let firstAlpha := sharedEngine.run alpha fetched {}
    let thenPair := sharedEngine.run pair fetched firstAlpha.2
    pair.plan.topology.host ≠ alpha.plan.topology.host
      ∧ RunState.InMemory {}
      ∧ firstPair.1 = thenPair.1 ∧ firstAlpha.1 = thenAlpha.1
      ∧ thenAlpha.2.checks.store = thenPair.2.checks.store
      ∧ thenAlpha.2.trees = thenPair.2.trees
      ∧ thenAlpha.2.checks.store.namespaces.keys.map (fun k => (k.host, k.node))
        = [("alpha", none), ("pair", some "alpha")]
      ∧ thenAlpha.2.checks.crashes.map (·.host) = ["pair", "alpha"]
      ∧ thenPair.2.checks.crashes.map (·.host) = ["alpha", "pair"] := by
  intro pair alpha fetched firstPair thenAlpha firstAlpha thenPair
  have hhosts : pair.plan.topology.host ≠ alpha.plan.topology.host := by decide
  have hmemory : RunState.InMemory {} := ⟨∅, rfl⟩
  obtain ⟨hpair, halpha, -, -, hstore, htrees, -⟩ := hosts_independent
    sharedEngine pair alpha fetched fetched {} hhosts hmemory
  exact ⟨hhosts, hmemory, hpair, halpha, hstore, htrees, by decide +kernel,
    by decide +kernel, by decide +kernel⟩

end Engine

end HostWatch
