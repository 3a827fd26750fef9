/-
Restarts are transparent.

Between two runs the stored values may be saved, and what is loaded from the
same path takes their place. As no copy that is put back leaves an empty
namespace behind, neither does a run (`Engine.run_compact`), and of such
values nothing is lost on the way (`ValueStore.load_save`). So the state is
the same after each restart of a sequence of runs as before it, and with it
the rest of the sequence (`Stage.restarts_transparent`).

The disk of a restart may be any one: of what is there before, nothing is
read. Two things have to be granted at each restart: that the values can be
saved, and that their text is read as what has been written, which
`ValueStore.readsBack_of_storable` says of all values but oddly rounded ones.
-/
import HostWatch.Proofs.Run
import HostWatch.Proofs.ValueStore.Stored

namespace HostWatch

-- ==================================================== no empty namespaces

/-- A turn leaves no empty namespace behind. -/
theorem CheckPlan.checkOne_compact {plan : CheckPlan} {env : CheckEnvironment}
    {registry : CheckRegistry} {service : Service} {state : CheckState}
    (h : state.store.Compact) :
    (plan.checkOne env registry service state).2.store.Compact := by
  rcases checkOne_cases plan env registry service with
    ⟨-, heq⟩ | ⟨-, -, heq⟩ | ⟨plugin, -, -, heq⟩
  · rw [heq]
    exact h
  · rw [heq]
    exact h
  · rw [heq]
    exact Topology.checkService_compact h

/-- A run leaves no empty namespace behind. -/
theorem Engine.run_compact [PatternLanguage] {engine : Engine}
    {request : RunRequest} {fetched : List Fetched} {state : RunState}
    (h : state.checks.store.Compact) :
    (engine.run request fetched state).2.checks.store.Compact := by
  let Kept (s : CheckState) : Prop := s.store.Compact
  have hone : ∀ service s, Kept s → Kept (request.plan.checkOne
      (engine.environmentOf fetched) engine.checks service s).2 :=
    fun _ _ => CheckPlan.checkOne_compact
  rw [run_checks]
  exact CheckPlan.checkFrom_keeps hone (P := Kept) h

-- ==================================================== restarts

/-- The stored values are saved, and what is loaded from there takes their
place. -/
def RunState.restart (state : RunState) (disk : Disk) (path : Path) :
    Except EngineError RunState :=
  match state.checks.store.save disk path with
  | (.error e, _) => .error (.storage e)
  | (.ok (), saved) =>
    match ValueStore.load saved path with
    | .error e => .error e
    | .ok store => .ok { state with checks := { state.checks with store } }

/-- A restart changes nothing, if the values can be saved and are read as
what has been written. -/
theorem RunState.restart_eq {state : RunState} {disk : Disk} {path : Path}
    (hcompact : state.checks.store.Compact)
    (hback : state.checks.store.ReadsBack)
    (hsave : (state.checks.store.save disk path).1 = .ok ()) :
    state.restart disk path = .ok state := by
  unfold restart
  split
  case h_1 e saved heq =>
    rw [heq] at hsave
    cases hsave
  case h_2 saved heq => rw [ValueStore.load_save hcompact hback heq]

/-- A run in a sequence of runs. -/
structure Stage where
  engine : Engine
  request : RunRequest
  fetched : List Fetched
  /-- The disk and the path of a restart before the run. -/
  restart : Option (Disk × Path) := none

namespace Stage

/-- The state in which the run begins. -/
def ready (stage : Stage) (state : RunState) : Except EngineError RunState :=
  match stage.restart with
  | none => .ok state
  | some (disk, path) => state.restart disk path

section

variable [PatternLanguage]

/-- The run itself. -/
def run (stage : Stage) (state : RunState) :
    Except Abort HostResult × RunState :=
  stage.engine.run stage.request stage.fetched state

/-- The runs of a sequence without any restarts: their results, and the state
in the end. -/
def runThrough : List Stage → RunState →
    List (Except Abort HostResult) × RunState
  | [], state => ([], state)
  | stage :: rest, state =>
    let after := stage.run state
    let later := runThrough rest after.2
    (after.1 :: later.1, later.2)

/-- The runs of a sequence with its restarts, if all of these go through. -/
def runAll : List Stage → RunState →
    Except EngineError (List (Except Abort HostResult) × RunState)
  | [], state => .ok ([], state)
  | stage :: rest, state =>
    match stage.ready state with
    | .error e => .error e
    | .ok state =>
      let after := stage.run state
      match runAll rest after.2 with
      | .error e => .error e
      | .ok later => .ok (after.1 :: later.1, later.2)

/-- Something holds at each restart of a sequence of the values that are
stored there, and of the disk and the path. -/
def AtRestarts (P : ValueStore → Disk → Path → Prop) :
    List Stage → RunState → Prop
  | [], _ => True
  | stage :: rest, state =>
    (∀ disk path, stage.restart = some (disk, path) →
        P state.checks.store disk path)
      ∧ AtRestarts P rest (stage.run state).2

variable {stages : List Stage}

/-- The restarts of a sequence change neither results nor the state. -/
theorem runAll_eq :
    ∀ {state : RunState}, state.checks.store.Compact →
      AtRestarts (fun store _ _ => store.ReadsBack) stages state →
      AtRestarts (fun store disk path => (store.save disk path).1 = .ok ())
        stages state →
      runAll stages state = .ok (runThrough stages state) := by
  induction stages with
  | nil => intro state _ _ _; rfl
  | cons stage rest ih =>
      intro state hcompact hback hsave
      have hready : stage.ready state = .ok state := by
        unfold ready
        cases hrestart : stage.restart with
        | none => rfl
        | some place =>
            exact RunState.restart_eq hcompact (hback.1 _ _ hrestart)
              (hsave.1 _ _ hrestart)
      have hlater : runAll rest (stage.run state).2
          = .ok (runThrough rest (stage.run state).2) :=
        ih (Engine.run_compact hcompact) hback.2 hsave.2
      unfold runAll runThrough
      simp only [hready, hlater]

-- ==================================================== the main statement

/-- Where no stored namespace is empty, which every commit preserves, what is
loaded after the values have been saved is the same under every key. So
restarts between the runs of a sequence change no result, nothing that is
passed on, and nothing that is stored in the end. -/
theorem restarts_transparent (stages : List Stage) (state : RunState)
    (hcompact : state.checks.store.Compact)
    (hback : AtRestarts (fun store _ _ => store.ReadsBack) stages state)
    (hsave : AtRestarts
      (fun store disk path => (store.save disk path).1 = .ok ())
      stages state) :
    (∀ key values, (state.checks.store.commit key values).Compact)
      ∧ (∀ disk path saved, state.checks.store.ReadsBack →
        state.checks.store.save disk path = (.ok (), saved) →
        ∃ loaded, ValueStore.load saved path = .ok loaded
          ∧ ∀ key, loaded.get? key = state.checks.store.get? key)
      ∧ runAll stages state = .ok (runThrough stages state) := by
  refine ⟨hcompact.commit, fun disk path saved hreads hsaved => ?_,
    runAll_eq hcompact hback hsave⟩
  exact ⟨_, ValueStore.load_save hcompact hreads hsaved, fun _ => rfl⟩

end

/-- A plugin that counts the times that it has been called. -/
def countingPlugin : CheckPlugin where
  name := "load"
  sections := ["load"]
  function _ _ values :=
    let count := match values.get? "count" with
      | some (.int n) => n + 1
      | _ => 1
    { ending := .yielded [.ofSummary .ok (toString count)]
      values := values.insert "count" (.int count) }

/-- An engine with that plugin only. -/
def countingEngine : Engine where
  catalog := .empty
  checks := .ofList [countingPlugin]
  inventory := .empty
  inventoryParameters := fun _ _ => default
  periods := fun _ => true
  effectiveHost := fun node _ => node
  clusterMode := fun _ _ => .worst
  crashId := CrashReport.idOfNumber
  time := "2024-01-01T00:00:00Z"

/-- A run with that engine, after a restart or without one. -/
def countingStage (restart : Option (Disk × Path)) : Stage where
  engine := countingEngine
  request :=
    { plan := { topology := { host := "alpha" }, services := [loadService] } }
  fetched := [(.agent "alpha", .ok "<<<load>>>\n1\n".toUTF8)]
  restart

/-- What is stored after a number of runs. -/
def counted (n : Int) : ValueStore :=
  (∅ : ValueStore).commit ⟨"alpha", ⟨"load", none⟩, none⟩
    (SortedMap.empty.insert "count" (.int n))

/-- Nothing but the count is stored. -/
private theorem value_of_counted {n : Int} {key : NamespaceKey}
    {values : Namespace} {name : String} {v : Value}
    (hvalues : (counted n).get? key = some values)
    (hv : values.get? name = some v) : v = .int n := by
  rw [counted, ValueStore.get?_commit] at hvalues
  split at hvalues
  case isTrue =>
    cases hvalues
    rw [SortedMap.get?_insert] at hv
    split at hv
    · exact (Option.some.inj hv).symm
    · cases hv
  case isFalse => cases hvalues

/-- The text for a count is read as what has been written. -/
private theorem counted_readsBack : (counted 1).ReadsBack := by
  refine ValueStore.readsBack_of_storable (n := 0) (by decide) ?_ ?_
  · intro key values hvalues name v hv
    rw [value_of_counted hvalues hv]
    exact .int 1
  · intro key values hvalues name v hv
    rw [value_of_counted hvalues hv]
    exact .int (by decide) (by decide)

/-- The second run goes on counting where the first one has ended, although
there is a restart between them. -/
theorem restarts_transparent_counting :
    let stages :=
      [countingStage none, countingStage (some (∅, "state/values.json"))]
    ValueStore.Compact ∅
      ∧ AtRestarts (fun store _ _ => store.ReadsBack) stages {}
      ∧ AtRestarts (fun store disk path => (store.save disk path).1 = .ok ())
        stages {}
      ∧ runAll stages {} = .ok (runThrough stages {})
      ∧ (runThrough stages {}).2.submitted.map (·.map (·.result.summary))
        = [["1"], ["2"]] := by
  intro stages
  have hcompact : ValueStore.Compact ∅ := fun key values h => by cases h
  have hstored : ((countingStage none).run {}).2.checks.store = counted 1 := by
    with_unfolding_all rfl
  have hback : AtRestarts (fun store _ _ => store.ReadsBack) stages {} := by
    refine ⟨fun _ _ h => (by cases h), fun disk path h => ?_, trivial⟩
    rw [hstored]
    exact counted_readsBack
  have hsave : AtRestarts
      (fun store disk path => (store.save disk path).1 = .ok ()) stages {} := by
    refine ⟨fun _ _ h => (by cases h), fun disk path h => ?_, trivial⟩
    cases h
    rfl
  obtain ⟨-, -, hsame⟩ :=
    restarts_transparent stages {} hcompact hback hsave
  exact ⟨hcompact, hback, hsave, hsame, by decide +kernel⟩

end Stage

end HostWatch
