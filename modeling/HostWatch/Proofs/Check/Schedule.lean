/-
Runs of checks, turn by turn.

A run takes the services of a host one after the other, and each turn
works on what the turns before it have left behind. `turns` lists the
turns that a run takes, each with the state that it finds, its answer and
the state that it leaves. What one turn can come to is said once
(`checkOne_ok`, `checkOne_error`), and the two run lemmas carry it over
the list: a run that goes through has the answers of its turns, in the
order of the services (`checkFrom_ok`); a run that does not was cancelled,
or its last turn was interrupted (`checkFrom_error`).

The main statement (`check_exact`) puts them together: which services get
a result, what is said about it (`Verdict`), and what alone can keep a run
from going through.
-/
import HostWatch.Check.Schedule
import HostWatch.Proofs.Check.Service

namespace HostWatch

/-- Whether a result is to be passed on, and whether there was data for it. -/
def ServiceOutcome.flags (outcome : ServiceOutcome) : Bool × Bool :=
  (outcome.submit, outcome.dataReceived)

namespace CheckPlan

-- ==================================================== whose turn it is

/-- Whether a service gets a result: its plugin is selected, and it is
inside of its time period if there is a plugin at all. -/
def isDue (plan : CheckPlan) (env : CheckEnvironment) (registry : CheckRegistry)
    (service : Service) : Bool :=
  plan.selection.selects service.plugin
    && ((registry.find? service.plugin).isNone
      || service.checkPeriod.all env.periods)

/-- It is a service's turn in a state, and the call for it is interrupted. -/
def TimesOut (plan : CheckPlan) (env : CheckEnvironment)
    (registry : CheckRegistry) (service : Service)
    (state : CheckState) : Prop :=
  plan.isDue env registry service = true
    ∧ ∃ plugin, registry.find? service.plugin = some plugin
      ∧ plan.topology.ending? env service plugin state.store = some .timedOut

variable {plan : CheckPlan} {env : CheckEnvironment} {registry : CheckRegistry}

/-- Whether a service is outside of its time period, read the other way
round. -/
private theorem outsidePeriod_eq (oracle : PeriodOracle)
    (period : Option PeriodName) :
    outsidePeriod oracle period = !period.all oracle := by
  cases period <;> rfl

/-- What the turns of a service can be, whatever the state: it is not its
turn, it has no plugin, or its plugin is called. -/
theorem checkOne_cases (plan : CheckPlan) (env : CheckEnvironment)
    (registry : CheckRegistry) (service : Service) :
    (plan.isDue env registry service = false
        ∧ ∀ state, plan.checkOne env registry service state = (.ok none, state))
      ∨ (plan.isDue env registry service = true
        ∧ registry.find? service.plugin = none
        ∧ ∀ state, plan.checkOne env registry service state
          = (.ok (some (.notImplemented service)), state))
      ∨ ∃ plugin, plan.isDue env registry service = true
        ∧ registry.find? service.plugin = some plugin
        ∧ ∀ state, plan.checkOne env registry service state
          = ((plan.topology.checkService env service plugin state).1.map some,
              (plan.topology.checkService env service plugin state).2) := by
  unfold checkOne isDue
  cases hselects : plan.selection.selects service.plugin with
  | false => exact Or.inl ⟨rfl, fun _ => rfl⟩
  | true =>
      cases hfind : registry.find? service.plugin with
      | none => exact Or.inr (Or.inl ⟨rfl, rfl, fun _ => rfl⟩)
      | some plugin =>
          simp only [outsidePeriod_eq]
          cases hperiod : service.checkPeriod.all env.periods with
          | false => exact Or.inl ⟨rfl, fun _ => rfl⟩
          | true => exact Or.inr (Or.inr ⟨plugin, rfl, rfl, fun _ => rfl⟩)

/-- A called plugin's turn goes through with the result of the check. -/
theorem ok_of_map_some {check : Except Abort ServiceOutcome × CheckState}
    {answer : Option ServiceOutcome} {after : CheckState}
    (h : (check.1.map some, check.2) = (.ok answer, after)) :
    ∃ outcome, answer = some outcome ∧ check = (.ok outcome, after) := by
  obtain ⟨result, state⟩ := check
  cases result with
  | error abort => cases h
  | ok outcome =>
      cases h
      exact ⟨outcome, rfl, rfl⟩

/-- A called plugin's turn fails where the check does. -/
private theorem error_of_map_some
    {check : Except Abort ServiceOutcome × CheckState} {abort : Abort}
    {after : CheckState}
    (h : (check.1.map some, check.2) = (.error abort, after)) :
    check = (.error abort, after) := by
  obtain ⟨result, state⟩ := check
  cases result with
  | error abort' =>
      cases h
      rfl
  | ok outcome => cases h

-- ==================================================== one turn

/-- What is said about a service that gets a result, after a turn that began
in one state and ended in another. -/
structure Verdict (t : Topology) (env : CheckEnvironment)
    (registry : CheckRegistry) (service : Service) (before after : CheckState)
    (outcome : ServiceOutcome) : Prop where
  service_eq : outcome.service = service
  /-- There is no plugin. -/
  notImplemented : registry.find? service.plugin = none →
    outcome.flags = (true, true) ∧ outcome.cacheInfo = none ∧ after = before
      ∧ outcome.result = ⟨.unknown, "Check plugin not implemented", []⟩
  /-- There is no data. -/
  noData : ∀ plugin, registry.find? service.plugin = some plugin →
    (outcome.flags = (false, false) ↔ ∀ key ∈ t.keysRead env service,
      ∀ name ∈ plugin.sections, env.providers.resolve? key name = none)
  /-- Without data nothing is called: neither calls nor anything else
  of the state change. -/
  uncalled : outcome.flags = (false, false) →
    outcome.cacheInfo = none ∧ after = before
  /-- The function asks for its results to be ignored. -/
  ignored : ∀ plugin, registry.find? service.plugin = some plugin →
    (outcome.flags = (false, true)
      ↔ ∃ message, t.ending? env service plugin before.store
        = some (.ignored message))
  /-- In all other cases there is something to pass on. -/
  submitted : outcome.flags = (false, false) ∨ outcome.flags = (false, true)
    ∨ outcome.flags = (true, true)

/-- What comes of the ending of a call is passed on, unless it is a wish
to be ignored. -/
private theorem flags_of_conclude {t : Topology} {service : Service}
    {call : AnyCall} {info : Option CacheInfo} {ending : Ending}
    {state after : CheckState} {outcome : ServiceOutcome}
    (h : t.conclude env service call info ending state = (.ok outcome, after)) :
    outcome.service = service
      ∧ ((outcome.flags = (false, true) ∧ ∃ message, ending = .ignored message)
        ∨ (outcome.flags = (true, true)
          ∧ ∀ message, ending ≠ .ignored message)) := by
  rcases Topology.conclude_ok h with
    ⟨outputs, rfl, rfl, -⟩ | ⟨message, rfl, rfl, -⟩ |
    ⟨message, hfailure, hcontained⟩
  · exact ⟨rfl, Or.inr ⟨rfl, fun _ heq => by cases heq⟩⟩
  · exact ⟨rfl, Or.inl ⟨rfl, message, rfl⟩⟩
  · injection hcontained with houtcome _
    subst houtcome
    refine ⟨rfl, Or.inr ⟨rfl, ?_⟩⟩
    rintro _ rfl
    cases hfailure

/-- What is said about a service whose plugin exists. -/
private theorem verdict_of_checkService {t : Topology} {service : Service}
    {plugin : CheckPlugin} {state after : CheckState} {outcome : ServiceOutcome}
    (hfind : registry.find? service.plugin = some plugin)
    (h : t.checkService env service plugin state = (.ok outcome, after)) :
    Verdict t env registry service state after outcome := by
  have hplugin : ∀ other,
      registry.find? service.plugin = some other → other = plugin := by
    intro other hother
    rw [hfind] at hother
    injection hother with hother
    exact hother.symm
  have hfound : registry.find? service.plugin ≠ none := by
    rw [hfind]
    intro hnone
    cases hnone
  rcases Topology.checkService_ok h with
    ⟨result, hdata, rfl, rfl⟩ | ⟨data, ending, hdata, hending, hconclude⟩
  · refine ⟨rfl, fun hnone => absurd hnone hfound, fun other hother => ?_,
      fun _ => ⟨rfl, rfl⟩, fun other hother => ?_, Or.inl rfl⟩
    · rw [hplugin other hother, ← t.dataFor_error_iff env service plugin]
      exact ⟨fun _ => ⟨result, hdata⟩, fun _ => rfl⟩
    · rw [hplugin other hother, Topology.ending?_of_noData hdata]
      exact ⟨fun hflags => (by cases hflags),
        fun ⟨_, hnone⟩ => (by cases hnone)⟩
  · -- there is data, so what is said depends on whether it is to be ignored
    have hsome : ¬ ∀ key ∈ t.keysRead env service, ∀ name ∈ plugin.sections,
        env.providers.resolve? key name = none := by
      rw [← t.dataFor_error_iff env service plugin, hdata]
      rintro ⟨result, hresult⟩
      cases hresult
    obtain ⟨hservice, hflags⟩ := flags_of_conclude hconclude
    have hreceived : outcome.flags ≠ (false, false) := by
      rcases hflags with ⟨hflags, -⟩ | ⟨hflags, -⟩ <;> rw [hflags] <;> decide
    refine ⟨hservice, fun hnone => absurd hnone hfound, fun other hother => ?_,
      fun hnone => absurd hnone hreceived, fun other hother => ?_, ?_⟩
    · rw [hplugin other hother]
      exact ⟨fun hnone => absurd hnone hreceived,
        fun hnone => absurd hnone hsome⟩
    · rw [hplugin other hother, hending]
      rcases hflags with ⟨hflags, message, rfl⟩ | ⟨hflags, hother⟩
      · exact ⟨fun _ => ⟨message, rfl⟩, fun _ => hflags⟩
      · rw [hflags]
        refine ⟨fun hignored => (by cases hignored), ?_⟩
        rintro ⟨message, heq⟩
        injection heq with heq
        exact absurd heq (hother message)
    · rcases hflags with ⟨hflags, -⟩ | ⟨hflags, -⟩
      · exact Or.inr (Or.inl hflags)
      · exact Or.inr (Or.inr hflags)

/-- What is said about a service without a plugin. -/
private theorem verdict_of_notImplemented {t : Topology} {service : Service}
    {state : CheckState} (hfind : registry.find? service.plugin = none) :
    Verdict t env registry service state state (.notImplemented service) := by
  refine ⟨rfl, fun _ => ⟨rfl, rfl, rfl, rfl⟩, fun plugin hplugin => ?_,
    fun hflags => ?_, fun plugin hplugin => ?_, Or.inr (Or.inr rfl)⟩
  · rw [hfind] at hplugin
    cases hplugin
  · cases hflags
  · rw [hfind] at hplugin
    cases hplugin

/-- A turn that goes through has a result exactly for a service whose
turn it is. -/
theorem checkOne_ok {service : Service} {state after : CheckState}
    {answer : Option ServiceOutcome}
    (h : plan.checkOne env registry service state = (.ok answer, after)) :
    answer.isSome = plan.isDue env registry service
      ∧ ∀ outcome, answer = some outcome →
          Verdict plan.topology env registry service state after outcome := by
  rcases checkOne_cases plan env registry service with
    ⟨hdue, heq⟩ | ⟨hdue, hfind, heq⟩ | ⟨plugin, hdue, hfind, heq⟩
  · rw [heq state] at h
    cases h
    exact ⟨hdue.symm, fun _ hsome => by cases hsome⟩
  · rw [heq state] at h
    cases h
    refine ⟨hdue.symm, fun outcome hsome => ?_⟩
    cases hsome
    exact verdict_of_notImplemented hfind
  · rw [heq state] at h
    obtain ⟨outcome, rfl, hcheck⟩ := ok_of_map_some h
    refine ⟨hdue.symm, fun outcome' hsome => ?_⟩
    cases hsome
    exact verdict_of_checkService hfind hcheck

/-- Where failures are contained, a turn fails only by an interrupted call. -/
theorem checkOne_error {service : Service} {state after : CheckState}
    {abort : Abort} (hdebug : env.debug = false)
    (h : plan.checkOne env registry service state = (.error abort, after)) :
    abort = .error .timeout ∧ plan.TimesOut env registry service state := by
  rcases checkOne_cases plan env registry service with
    ⟨-, heq⟩ | ⟨-, -, heq⟩ | ⟨plugin, hdue, hfind, heq⟩
  · rw [heq state] at h
    cases h
  · rw [heq state] at h
    cases h
  · rw [heq state] at h
    obtain ⟨habort, htimedOut⟩ :=
      Topology.checkService_error hdebug (error_of_map_some h)
    exact ⟨habort, hdue, plugin, hfind, htimedOut⟩

/-- A turn whose call is interrupted does not go through. -/
theorem not_timesOut_of_ok {service : Service} {state after : CheckState}
    {answer : Option ServiceOutcome}
    (h : plan.checkOne env registry service state = (.ok answer, after)) :
    ¬ plan.TimesOut env registry service state := by
  rintro ⟨hdue, plugin, hfind, htimedOut⟩
  rcases checkOne_cases plan env registry service with
    ⟨hnot, -⟩ | ⟨-, hnone, -⟩ | ⟨plugin', -, hfind', heq⟩
  · rw [hdue] at hnot
    cases hnot
  · rw [hfind] at hnone
    cases hnone
  · rw [hfind] at hfind'
    cases hfind'
    rw [heq state] at h
    obtain ⟨outcome, -, hcheck⟩ := ok_of_map_some h
    exact Topology.not_timedOut_of_ok hcheck htimedOut

-- ==================================================== the turns of a run

/-- One turn of a run. -/
structure Turn where
  service : Service
  before : CheckState
  answer : Except Abort (Option ServiceOutcome)
  after : CheckState

/-- The result that a turn has come to, if any. -/
def Turn.outcome? (turn : Turn) : Option ServiceOutcome :=
  match turn.answer with
  | .ok outcome => outcome
  | .error _ => none

/-- The turns that a run takes from a position on, up to the first one
that does not go through. -/
def turnsFrom (plan : CheckPlan) (env : CheckEnvironment)
    (registry : CheckRegistry) (position : Nat) (services : List Service)
    (state : CheckState) :
    List Turn :=
  match services with
  | [] => []
  | service :: rest =>
    if plan.cancelledAt position || state.cancelled then []
    else
      match plan.checkOne env registry service state with
      | (.error abort, after) => [⟨service, state, .error abort, after⟩]
      | (.ok outcome, after) =>
        ⟨service, state, .ok outcome, after⟩
          :: plan.turnsFrom env registry (position + 1) rest after

/-- The turns of a whole run. -/
def turns (plan : CheckPlan) (env : CheckEnvironment) (registry : CheckRegistry)
    (state : CheckState) : List Turn :=
  plan.turnsFrom env registry 0 plan.services state

/-- Each turn is the check of its service in the state that it finds. -/
theorem checkOne_of_mem_turnsFrom {services : List Service} :
    ∀ {position : Nat} {state : CheckState} {turn : Turn},
      turn ∈ plan.turnsFrom env registry position services state →
      plan.checkOne env registry turn.service turn.before
        = (turn.answer, turn.after) := by
  induction services with
  | nil => intro position state turn h; cases h
  | cons service rest ih =>
      intro position state turn h
      unfold turnsFrom at h
      split at h
      case isTrue => cases h
      case isFalse =>
        split at h
        case h_1 abort after hone =>
          rw [List.mem_singleton.mp h]
          exact hone
        case h_2 outcome after hone =>
          rcases List.mem_cons.mp h with rfl | h
          · exact hone
          · exact ih h

/-- What every turn keeps, a run keeps. -/
theorem checkFrom_keeps {P : CheckState → Prop}
    (hone : ∀ service state, P state →
      P (plan.checkOne env registry service state).2)
    {services : List Service} :
    ∀ {position : Nat} {state : CheckState}, P state →
      P (plan.checkFrom env registry position services state).2 := by
  induction services with
  | nil => intro position state h; exact h
  | cons service rest ih =>
      intro position state h
      have hafter := hone service state h
      unfold checkFrom
      split
      case isTrue => exact h
      case isFalse =>
        generalize plan.checkOne env registry service state = one at hafter ⊢
        obtain ⟨answer, after⟩ := one
        cases answer with
        | error abort => exact hafter
        | ok answer => exact ih hafter

/-- A run that goes through takes the turn of its first service, and
then goes through the rest. -/
theorem checkFrom_cons_ok {position : Nat} {service : Service}
    {rest : List Service} {state final : CheckState}
    {outcomes : List ServiceOutcome}
    (h : plan.checkFrom env registry position (service :: rest) state
      = (.ok outcomes, final)) :
    ∃ answer after later,
      plan.checkOne env registry service state = (.ok answer, after)
        ∧ plan.checkFrom env registry (position + 1) rest after
          = (.ok later, final)
        ∧ outcomes = answer.toList ++ later
        ∧ plan.turnsFrom env registry position (service :: rest) state
          = ⟨service, state, .ok answer, after⟩
              :: plan.turnsFrom env registry (position + 1) rest after := by
  unfold checkFrom at h
  rw [turnsFrom]
  split at h
  case isTrue => cases h
  case isFalse hgo =>
    rw [if_neg hgo]
    generalize plan.checkOne env registry service state = one at h
    obtain ⟨answer, after⟩ := one
    cases answer with
    | error abort => cases h
    | ok answer =>
        simp only at h
        generalize hrest :
          plan.checkFrom env registry (position + 1) rest after = more at h
        obtain ⟨result, final'⟩ := more
        cases result with
        | error abort => cases h
        | ok later =>
            cases h
            exact ⟨answer, after, later, rfl, hrest, rfl, rfl⟩

/-- A run that goes through takes one turn for each service, all of which
go through, and its results are those of its turns. -/
theorem checkFrom_ok {services : List Service} :
    ∀ {position : Nat} {state final : CheckState}
      {outcomes : List ServiceOutcome},
      plan.checkFrom env registry position services state
        = (.ok outcomes, final) →
      let turns := plan.turnsFrom env registry position services state
      turns.map (·.service) = services
        ∧ outcomes = turns.filterMap (·.outcome?)
        ∧ ∀ turn ∈ turns, ∃ answer, turn.answer = .ok answer := by
  induction services with
  | nil =>
      intro position state final outcomes h
      cases h
      exact ⟨rfl, rfl, fun turn hturn => by cases hturn⟩
  | cons service rest ih =>
      intro position state final outcomes h
      obtain ⟨answer, after, later, -, hrest, rfl, hturns⟩ :=
        checkFrom_cons_ok h
      obtain ⟨hservices, houtcomes, hanswers⟩ := ih hrest
      rw [hturns]
      refine ⟨by rw [List.map_cons, hservices], ?_, ?_⟩
      · rw [filterMap_cons_toList, ← houtcomes]
        rfl
      · intro turn hturn
        rcases List.mem_cons.mp hturn with rfl | hturn
        · exact ⟨answer, rfl⟩
        · exact hanswers turn hturn

/-- Where failures are contained, a run that does not go through was
cancelled, or its last turn was interrupted. -/
theorem checkFrom_error {services : List Service} (hdebug : env.debug = false) :
    ∀ {position : Nat} {state final : CheckState} {abort : Abort},
      plan.checkFrom env registry position services state
        = (.error abort, final) →
      abort = .error .timeout
        ∧ ((∃ position', plan.cancelledAt position' = true)
          ∨ final.cancelled = true
          ∨ ∃ made turn,
            plan.turnsFrom env registry position services state
                = made ++ [turn]
              ∧ plan.TimesOut env registry turn.service turn.before) := by
  induction services with
  | nil => intro position state final abort h; cases h
  | cons service rest ih =>
      intro position state final abort h
      unfold checkFrom at h
      unfold turnsFrom
      split at h
      case isTrue hcancelled =>
        cases h
        refine ⟨rfl, ?_⟩
        rcases Bool.or_eq_true_iff.mp hcancelled with hcancelled | hcancelled
        · exact Or.inl ⟨position, hcancelled⟩
        · exact Or.inr (Or.inl hcancelled)
      case isFalse hgo =>
        rw [if_neg hgo]
        generalize hone : plan.checkOne env registry service state = one at h
        obtain ⟨answer, after⟩ := one
        cases answer with
        | error abort' =>
            cases h
            obtain ⟨habort, htimesOut⟩ := checkOne_error hdebug hone
            exact ⟨habort, Or.inr (Or.inr ⟨[], _, rfl, htimesOut⟩)⟩
        | ok answer =>
            simp only at h ⊢
            generalize hrest :
              plan.checkFrom env registry (position + 1) rest after = more at h
            obtain ⟨result, final'⟩ := more
            cases result with
            | ok later => cases h
            | error abort' =>
                cases h
                obtain ⟨habort, hwhy⟩ := ih hrest
                refine ⟨habort, hwhy.imp id (Or.imp id ?_)⟩
                rintro ⟨made, turn, hturns, htimesOut⟩
                exact ⟨_ :: made, turn, by rw [hturns]; rfl, htimesOut⟩

-- ==================================================== the main statement

/-- A run is cancelled neither from outside nor by one of its check
functions. -/
def NeverCancelled (plan : CheckPlan) (env : CheckEnvironment)
    (registry : CheckRegistry) (state : CheckState) : Prop :=
  (∀ position, plan.cancelledAt position = false)
    ∧ (plan.check env registry state).2.cancelled = false

/-- The services of some results are those of the turns that have to
have one. -/
private theorem services_of_outcomes {turns : List Turn} {due : Service → Bool}
    (hdue : ∀ turn ∈ turns, turn.outcome?.isSome = due turn.service)
    (hservice : ∀ turn ∈ turns, ∀ outcome, turn.outcome? = some outcome →
      outcome.service = turn.service) :
    (turns.filterMap (·.outcome?)).map (·.service)
      = (turns.map (·.service)).filter due := by
  induction turns with
  | nil => rfl
  | cons turn rest ih =>
      have hrest := ih (fun t ht => hdue t (List.mem_cons_of_mem _ ht))
        fun t ht => hservice t (List.mem_cons_of_mem _ ht)
      have hsome := hdue turn (List.mem_cons_self ..)
      rw [filterMap_cons_toList, List.map_append, hrest, List.map_cons]
      cases houtcome : turn.outcome? with
      | none =>
          rw [houtcome] at hsome
          rw [List.filter_cons_of_neg (by rw [← hsome]; decide)]
          rfl
      | some outcome =>
          rw [houtcome] at hsome
          rw [List.filter_cons_of_pos hsome.symm,
            ← hservice turn (List.mem_cons_self ..) outcome houtcome]
          rfl

/-- A run with contained failures that is never cancelled either goes
through, or its last turn is interrupted. If it goes through, it has one
result for each service whose turn it is, in order, and what each result
says is as it should be. -/
theorem check_exact (plan : CheckPlan) (env : CheckEnvironment)
    (registry : CheckRegistry) (state : CheckState)
    (hdebug : env.debug = false)
    (hcancel : plan.NeverCancelled env registry state) :
    let turns := plan.turns env registry state
    match (plan.check env registry state).1 with
    | .ok outcomes =>
      outcomes.map (·.service) = plan.services.filter (plan.isDue env registry)
        ∧ turns.map (·.service) = plan.services
        ∧ outcomes = turns.filterMap (·.outcome?)
        ∧ (∀ turn ∈ turns, ∀ outcome, turn.outcome? = some outcome →
            Verdict plan.topology env registry turn.service turn.before
              turn.after outcome)
        ∧ ∀ turn ∈ turns, ¬ plan.TimesOut env registry turn.service turn.before
    | .error abort =>
      abort = .error .timeout ∧ ∃ made turn, turns = made ++ [turn]
        ∧ plan.TimesOut env registry turn.service turn.before := by
  intro turns
  obtain ⟨hposition, hfinal⟩ := hcancel
  generalize hcheck : plan.check env registry state = run at hfinal ⊢
  obtain ⟨result, final⟩ := run
  cases result with
  | ok outcomes =>
      obtain ⟨hservices, houtcomes, hanswers⟩ :
          turns.map (·.service) = plan.services
            ∧ outcomes = turns.filterMap (·.outcome?)
            ∧ ∀ turn ∈ turns, ∃ answer, turn.answer = .ok answer :=
        checkFrom_ok hcheck
      have hturn : ∀ turn ∈ turns,
          plan.checkOne env registry turn.service turn.before
            = (.ok turn.outcome?, turn.after) := by
        intro turn hmem
        obtain ⟨answer, hanswer⟩ := hanswers turn hmem
        rw [checkOne_of_mem_turnsFrom hmem]
        unfold Turn.outcome?
        rw [hanswer]
      have hverdict : ∀ turn ∈ turns, ∀ outcome, turn.outcome? = some outcome →
          Verdict plan.topology env registry turn.service turn.before
            turn.after outcome :=
        fun turn hmem => (checkOne_ok (hturn turn hmem)).2
      refine ⟨?_, hservices, houtcomes, hverdict, ?_⟩
      · rw [houtcomes, ← hservices]
        exact services_of_outcomes
          (fun turn hmem => (checkOne_ok (hturn turn hmem)).1)
          fun turn hmem outcome hsome =>
            (hverdict turn hmem outcome hsome).service_eq
      · exact fun turn hmem => not_timesOut_of_ok (hturn turn hmem)
  | error abort =>
      obtain ⟨habort, ⟨position, hcancelled⟩ | hcancelled | htimesOut⟩ :=
        checkFrom_error hdebug hcheck
      · rw [hposition position] at hcancelled
        cases hcancelled
      · rw [show final.cancelled = false from hfinal] at hcancelled
        cases hcancelled
      · exact ⟨habort, htimesOut⟩

/-- A plan with a service that is checked, one without a plugin and
without an active period, one whose period is not active, and one that
has no data. -/
def mixedPlan : CheckPlan where
  topology := pairTopology
  services := [loadService,
    { plugin := "gone", description := "Gone", checkPeriod := some "night" },
    { loadService with item := some "late", checkPeriod := some "night" },
    { plugin := "mgmt_load", description := "Board" }]

/-- A plugin that breaks off whenever it is called. -/
def crashingPlugin : CheckPlugin where
  name := "load"
  sections := ["load"]
  function _ _ values := { ending := .crashed "boom", values }

/-- The registry of that plugin, which serves the management board as well. -/
def crashingRegistry : CheckRegistry := .ofList [crashingPlugin]

/-- The services are told apart, and the one whose plugin breaks off
does not end the run. -/
theorem check_exact_mixed :
    let env := pairEnvironment .merge
    mixedPlan.NeverCancelled env crashingRegistry {}
      ∧ ∃ outcomes, (mixedPlan.check env crashingRegistry {}).1 = .ok outcomes
          ∧ outcomes.map (·.service)
            = mixedPlan.services.filter (mixedPlan.isDue env crashingRegistry)
          ∧ outcomes.map (·.service.description) = ["Load", "Gone", "Board"]
          ∧ outcomes.map (·.flags)
            = [(true, true), (true, true), (false, false)] := by
  intro env
  have hcancel : mixedPlan.NeverCancelled env crashingRegistry {} :=
    ⟨fun _ => rfl, by decide +kernel⟩
  have hexact := check_exact mixedPlan env crashingRegistry {} rfl hcancel
  have hsaid : (mixedPlan.check env crashingRegistry {}).1.toOption.map
      (fun outcomes => (outcomes.map (·.service.description),
        outcomes.map (·.flags)))
        = some (["Load", "Gone", "Board"],
          [(true, true), (true, true), (false, false)]) := by
    decide +kernel
  refine ⟨hcancel, ?_⟩
  cases hcheck : (mixedPlan.check env crashingRegistry {}).1 with
  | error abort =>
      rw [hcheck] at hsaid
      cases hsaid
  | ok outcomes =>
      rw [hcheck] at hexact hsaid
      injection hsaid with hsaid
      injection hsaid with hdescriptions hflags
      exact ⟨outcomes, rfl, hexact.1, hdescriptions, hflags⟩

end CheckPlan

end HostWatch
