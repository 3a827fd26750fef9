/-
A run is all or nothing.

The results of a run are passed on in one piece or not at all: they are, if
the checks go through, and that is the only time (`run_submitted`). If the
checks break off, nothing that comes after them takes place; in particular
the inventory does not. If the inventory breaks off, the results have been
passed on already, but what is stored of the inventory is what it was
(`trees_of_error`): it is changed in one step, and that step is the last one.

Where the checks can break off is said in `BreaksOff`, for every moment at
which a run may be cancelled: a run looks only when it gets to a service, so
all that counts of the moment is the first service that it comes before.
-/
import HostWatch.Pattern.Reader
import HostWatch.Proofs.Check.Abort
import HostWatch.Run

namespace HostWatch.Engine

variable {engine : Engine} {request : RunRequest} {fetched : List Fetched}
    {state : RunState}

-- ==================================================== the parts of a run

/-- A part of a run goes through if something comes of it. -/
private theorem exists_ok {α : Type} {result : Except Abort α}
    (h : result.toOption.isSome = true) : ∃ a, result = .ok a := by
  cases result with
  | error abort => cases h
  | ok a => exact ⟨a, rfl⟩

/-- A part of a run breaks off if nothing comes of it. -/
private theorem exists_error {α : Type} {result : Except Abort α}
    (h : result.toOption.isNone = true) : ∃ abort, result = .error abort := by
  cases result with
  | error abort => exact ⟨abort, rfl⟩
  | ok a => cases h

/-- What the checks of a run have to go by. -/
def environmentOf (engine : Engine) (fetched : List Fetched) :
    CheckEnvironment :=
  engine.checkEnvironment (engine.providers (fetched.map parseFetched)) fetched

/-- The checks of a run. -/
def checksOf (engine : Engine) (request : RunRequest) (fetched : List Fetched)
    (state : RunState) : Except Abort (List ServiceOutcome) × CheckState :=
  request.plan.check (engine.environmentOf fetched) engine.checks
    { state.checks with cancelled := false }

section

variable [PatternLanguage]

/-- A run whose checks break off ends with them. -/
theorem run_of_checks_error {abort : Abort} {final : CheckState}
    (h : engine.checksOf request fetched state = (.error abort, final)) :
    engine.run request fetched state
      = (.error abort, { state with checks := final }) := by
  unfold checksOf environmentOf at h
  unfold run checkServices
  simp only [h]

/-- A run whose checks go through passes their results on, and goes on with
the inventory. -/
theorem run_of_checks_ok {outcomes : List ServiceOutcome} {final : CheckState}
    (h : engine.checksOf request fetched state = (.ok outcomes, final)) :
    engine.run request fetched state
      = engine.conclude request fetched outcomes
          { state with
            checks := final
            submitted :=
              state.submitted ++ [outcomes.map (·.submission)] } := by
  unfold checksOf environmentOf at h
  unfold run checkServices
  simp only [h]

/-- The inventory passes nothing on, and has no part in the checks. -/
theorem conclude_keeps (outcomes : List ServiceOutcome) (state : RunState) :
    (engine.conclude request fetched outcomes state).2.submitted
        = state.submitted
      ∧ (engine.conclude request fetched outcomes state).2.checks
        = state.checks := by
  unfold conclude
  simp only
  split <;> exact ⟨rfl, rfl⟩

/-- An inventory that breaks off leaves everything as it was. -/
theorem conclude_of_error {outcomes : List ServiceOutcome} {state : RunState}
    {abort : Abort}
    (h : (engine.conclude request fetched outcomes state).1 = .error abort) :
    engine.updateInventory request (engine.providers (fetched.map parseFetched))
        state.trees = .error abort
      ∧ engine.conclude request fetched outcomes state
        = (.error abort, state) := by
  unfold conclude at h ⊢
  simp only at h ⊢
  split at h
  case h_1 abort' herror =>
    cases h
    rw [herror]
    exact ⟨rfl, rfl⟩
  case h_2 => cases h

/-- A run goes through if its checks and its inventory do. -/
theorem run_ok {result : HostResult} {after : RunState}
    (h : engine.run request fetched state = (.ok result, after)) :
    ∃ outcomes final trees,
      engine.checksOf request fetched state = (.ok outcomes, final)
        ∧ engine.updateInventory request
          (engine.providers (fetched.map parseFetched)) state.trees = .ok trees
        ∧ result = HostReport.total
          (HostReport.ofSources engine.sourceSpec (fetched.map parseFetched))
          (engine.providers (fetched.map parseFetched)) outcomes
          request.exitSpec
        ∧ after = { state with
          checks := final
          trees
          submitted := state.submitted ++ [outcomes.map (·.submission)] } := by
  cases hchecks : engine.checksOf request fetched state with
  | mk checks final =>
      cases checks with
      | error abort =>
          rw [run_of_checks_error hchecks] at h
          cases h
      | ok outcomes =>
          rw [run_of_checks_ok hchecks] at h
          unfold conclude at h
          simp only at h
          split at h
          case h_1 => cases h
          case h_2 trees htrees =>
            injection h with hresult hafter
            injection hresult with hresult
            exact ⟨outcomes, final, trees, rfl, htrees, hresult.symm,
              hafter.symm⟩

/-- What a run leaves of its checks is what they leave. -/
theorem run_checks (engine : Engine) (request : RunRequest)
    (fetched : List Fetched) (state : RunState) :
    (engine.run request fetched state).2.checks
      = (engine.checksOf request fetched state).2 := by
  cases hchecks : engine.checksOf request fetched state with
  | mk result final =>
      cases result with
      | error abort => rw [run_of_checks_error hchecks]
      | ok outcomes => rw [run_of_checks_ok hchecks, (conclude_keeps ..).2]

/-- The results of a run are passed on in one piece, or not at all. -/
theorem run_submitted (engine : Engine) (request : RunRequest)
    (fetched : List Fetched) (state : RunState) :
    (engine.run request fetched state).2.submitted = state.submitted ++
      match (engine.checksOf request fetched state).1 with
      | .ok outcomes => [outcomes.map (·.submission)]
      | .error _ => [] := by
  cases hchecks : engine.checksOf request fetched state with
  | mk result final =>
      cases result with
      | error abort =>
          rw [run_of_checks_error hchecks]
          exact (List.append_nil _).symm
      | ok outcomes =>
          rw [run_of_checks_ok hchecks, (conclude_keeps ..).1]

/-- A run that breaks off leaves what is stored of the inventory as it was. -/
private theorem trees_of_error {abort : Abort}
    (h : (engine.run request fetched state).1 = .error abort) :
    (engine.run request fetched state).2.trees = state.trees := by
  cases hchecks : engine.checksOf request fetched state with
  | mk result final =>
      cases result with
      | error abort' => rw [run_of_checks_error hchecks]
      | ok outcomes =>
          rw [run_of_checks_ok hchecks] at h ⊢
          rw [(conclude_of_error h).2]

-- ==================================================== the main statement

/-- A run is all or nothing, whenever it may be cancelled. Its results are
passed on at most once, and exactly if its checks go through: one for each
result of a service, in order. The checks do not go through exactly if they
break off at some service; then the run ends with what they break off with,
functions have been called for the services before that one and for itself,
but for none after it, nothing is passed on, and what is stored of the
inventory is as before. If the inventory breaks off, the run ends with that,
and what is stored of it is as before, too. -/
theorem run_all_or_nothing (engine : Engine) (request : RunRequest)
    (fetched : List Fetched) (state : RunState) :
    let env := engine.environmentOf fetched
    let plan := request.plan
    let start := { state.checks with cancelled := false }
    let checks := plan.check env engine.checks start
    let after := engine.run request fetched state
    (after.2.submitted = state.submitted ++
        match checks.1 with
        | .ok outcomes =>
          [outcomes.map fun outcome =>
            { description := outcome.service.description
              result := outcome.result
              cacheInfo := outcome.cacheInfo
              pending := !outcome.submit }]
        | .error _ => [])
      ∧ (∀ position service reached abort,
        plan.services[position]? = some service →
        plan.Reaches env engine.checks start position reached →
        plan.BreaksOff env engine.checks position service reached abort →
        after.1 = .error abort
          ∧ after.2.submitted = state.submitted
          ∧ after.2.trees = state.trees
          ∧ ∃ earlier own,
            reached.calls = state.checks.calls ++ earlier
              ∧ (∀ invocation ∈ earlier, ∃ s ∈ plan.services.take position,
                invocation.service = plan.topology.current s)
              ∧ after.2.checks.calls = state.checks.calls ++ earlier ++ own
              ∧ ∀ invocation ∈ own,
                invocation.service = plan.topology.current service)
      ∧ (∀ abort, checks.1 = .error abort →
        ∃ position service reached, plan.services[position]? = some service
          ∧ plan.Reaches env engine.checks start position reached
          ∧ plan.BreaksOff env engine.checks position service reached abort)
      ∧ (∀ outcomes abort, checks.1 = .ok outcomes →
        engine.updateInventory request
          (engine.providers (fetched.map parseFetched)) state.trees
            = .error abort →
        after.1 = .error abort)
      ∧ ∀ abort, after.1 = .error abort → after.2.trees = state.trees := by
  intro env plan start checks after
  refine ⟨run_submitted engine request fetched state,
    fun position service reached abort hservice hreaches hbreaks => ?_,
    fun abort => CheckPlan.exists_breaksOff,
    fun outcomes abort hok hinventory => ?_,
    fun abort => trees_of_error⟩
  · obtain ⟨final, own, hcheck, hcalls, hown⟩ :=
      CheckPlan.check_of_breaksOff hservice hreaches hbreaks
    obtain ⟨earlier, hreached, hearlier⟩ := hreaches.calls
    have hrun : after = (.error abort, { state with checks := final }) :=
      run_of_checks_error hcheck
    rw [hrun]
    exact ⟨rfl, rfl, rfl, earlier, own, hreached, hearlier,
      by rw [hcalls, hreached], hown⟩
  · have hrun : after = engine.conclude request fetched outcomes
        { state with
          checks := checks.2
          submitted := state.submitted ++ [outcomes.map (·.submission)] } :=
      run_of_checks_ok (Prod.ext hok rfl)
    rw [hrun]
    unfold conclude
    simp only [hinventory]

end

/-- An engine that lets failures through, with a plugin that ends in some way
and an inventory plugin that always fails. -/
def brittleEngine (ending : Ending) : Engine where
  catalog := .empty
  checks := .ofList [
    { name := "seen", sections := ["load"],
      function := fun _ _ values => { ending := .yielded [], values } },
    { name := "load", sections := ["load"],
      function := fun _ _ values => { ending, values } }]
  inventory := SortedMap.empty.insert "board"
    { name := "board", sections := ["load"],
      function := fun _ => .failed "no board" }
  inventoryParameters := fun _ _ => default
  periods := fun _ => true
  effectiveHost := fun node _ => node
  clusterMode := fun _ _ => .native
  debug := true
  crashId := CrashReport.idOfNumber
  time := "2024-01-01T00:00:00Z"

/-- A run on a host with three services, of which the second one has that
plugin, and with an inventory. -/
def brittleRequest : RunRequest where
  plan :=
    { topology := { host := "alpha", isCluster := false, nodes := [] }
      services := [{ plugin := "seen", description := "Before" },
        { plugin := "load", description := "Load" },
        { plugin := "seen", description := "After" }] }
  inventory := { statusData := true }

/-- The second service breaks the run off if its function is interrupted.
If it is not, the results are passed on before the inventory fails. -/
theorem run_all_or_nothing_brittle :
    let fetched : List Fetched :=
      [(.agent "alpha", .ok "<<<load>>>\n1\n".toUTF8)]
    let before : RunState :=
      { trees := .memory (SortedMap.empty.insert "alpha" ∅) }
    let late := (brittleEngine .timedOut).run brittleRequest fetched before
    let last := (brittleEngine (.yielded [])).run brittleRequest fetched before
    (late.1 = .error (.error .timeout)
        ∧ late.2.checks.calls.map (·.service.description) = ["Before", "Load"]
        ∧ late.2.submitted = [] ∧ late.2.trees = before.trees)
      ∧ ∃ abort, last.1 = .error abort
        ∧ last.2.submitted.map (·.map (·.description))
          = [["Before", "Load", "After"]]
        ∧ last.2.trees = before.trees := by
  intro fetched before late last
  constructor
  · let engine := brittleEngine .timedOut
    let plan := brittleRequest.plan
    let env := engine.environmentOf fetched
    let first := plan.checkFrom env engine.checks 0 (plan.services.take 1)
      { before.checks with cancelled := false }
    obtain ⟨outcomes, hfirst⟩ : ∃ outcomes, first.1 = .ok outcomes :=
      exists_ok (by decide +kernel)
    have hreaches : plan.Reaches env engine.checks
        { before.checks with cancelled := false } 1 first.2 :=
      ⟨outcomes, Prod.ext hfirst rfl⟩
    have hbreaks : plan.BreaksOff env engine.checks 1
        { plugin := "load", description := "Load" } first.2 (.error .timeout) :=
      .aborted (by decide +kernel) (by decide +kernel) rfl
        (show _ = some Ending.timedOut by decide +kernel) rfl
    obtain ⟨hend, hsubmitted, htrees, -⟩ :=
      (run_all_or_nothing engine brittleRequest fetched before).2.1 1 _ _ _ rfl
        hreaches hbreaks
    exact ⟨hend, by decide +kernel, hsubmitted, htrees⟩
  · let engine := brittleEngine (.yielded [])
    let providers := engine.providers (fetched.map parseFetched)
    obtain ⟨outcomes, hchecks⟩ : ∃ outcomes,
        (engine.checksOf brittleRequest fetched before).1 = .ok outcomes :=
      exists_ok (by decide +kernel)
    obtain ⟨abort, hinventory⟩ : ∃ abort, engine.updateInventory
        brittleRequest providers before.trees = .error abort :=
      exists_error (by decide +kernel)
    obtain ⟨-, -, -, hlast, htrees⟩ :=
      run_all_or_nothing engine brittleRequest fetched before
    have hend : last.1 = .error abort :=
      hlast outcomes abort hchecks hinventory
    exact ⟨abort, hend, by decide +kernel, htrees abort hend⟩

end HostWatch.Engine
