/-
What a run of checks has to do with other hosts: nothing.

Every namespace that a run opens has the name of its own host in its key,
those of the nodes of a cluster included: they are told apart by the node,
but belong to the cluster. So a run leaves all namespaces of other hosts
alone (`checkFrom_frame`), and what it does depends on nothing but those of
its own (`checkFrom_alike`).

The relation that two runs keep (`CheckState.Alike`) has the stores agree on
the host and not elsewhere, and the crash reports agree but for their
identities, which count the reports of all hosts. The flag that cancels a
run is part of it: a function that sets it in the one run sets it in the
other, so that both go on or break off together.
-/
import HostWatch.Proofs.Check.Containment
import Mathlib.Data.List.Forall2

namespace HostWatch

/-- A report without what tells it apart from others. -/
def CrashReport.anonymous (r : CrashReport) : CrashReport := { r with id := "" }

/-- Two states of runs on a host, of which one began with the reports `known`
and the other one with `known'`: what is stored for the host is the same, and
the reports since then are, their identities apart. -/
structure CheckState.Alike (host : HostName) (known known' : List CrashReport)
    (state state' : CheckState) : Prop where
  store : ValueStore.AgreeOn host state.store state'.store
  cancelled : state.cancelled = state'.cancelled
  crashes : ∃ added added', state.crashes = known ++ added
    ∧ state'.crashes = known' ++ added'
    ∧ added.map (·.anonymous) = added'.map (·.anonymous)

namespace ServiceOutcome

/-- Two runs come to the same results, the identities of crash reports apart,
or end in the same way. -/
def SameAnswers : Except Abort (List ServiceOutcome) →
    Except Abort (List ServiceOutcome) → Prop
  | .ok outcomes, .ok outcomes' => List.Forall₂ SameUpToId outcomes outcomes'
  | .error abort, .error abort' => abort = abort'
  | _, _ => False

/-- The same results in front of the same answers. -/
theorem SameAnswers.append {first first' : List ServiceOutcome}
    {later later' : Except Abort (List ServiceOutcome)}
    (h : List.Forall₂ SameUpToId first first')
    (hlater : SameAnswers later later') :
    SameAnswers (later.map (first ++ ·)) (later'.map (first' ++ ·)) := by
  cases later with
  | error abort =>
      cases later' with
      | error abort' => exact hlater
      | ok outcomes' => cases hlater
  | ok outcomes =>
      cases later' with
      | error abort' => cases hlater
      | ok outcomes' => exact List.rel_append h hlater

end ServiceOutcome

variable {host : HostName} {known known' : List CrashReport}

-- ==================================================== one check

namespace Topology

variable {t : Topology} {env : CheckEnvironment} {service : Service}
    {plugin : CheckPlugin}

/-- What becomes of one ending in two states that are alike leaves them alike:
if there is a report, then on the same failure. -/
private theorem conclude_alike {call : AnyCall} {info : Option CacheInfo}
    {ending : Ending} {state state' : CheckState}
    (h : CheckState.Alike host known known' state state') :
    CheckState.Alike host known known'
      (t.conclude env service call info ending state).2
      (t.conclude env service call info ending state').2 := by
  have hreport : ∀ message, CheckState.Alike host known known'
      (t.contained env service call info message state).2
      (t.contained env service call info message state').2 := by
    intro message
    obtain ⟨added, added', hadded, hadded', hsame⟩ := h.crashes
    let report := t.crashReport env service call message
    refine ⟨h.store, h.cancelled, added ++ [report state.crashes.length],
      added' ++ [report state'.crashes.length], ?_, ?_, ?_⟩
    · rw [← List.append_assoc, ← hadded]
      rfl
    · rw [← List.append_assoc, ← hadded']
      rfl
    · -- the two reports differ in how many others there were before
      rw [List.map_append, List.map_append, hsame]
      rfl
  unfold conclude
  cases ending with
  | yielded outputs | ignored message | timedOut => exact h
  | failed message | crashed message =>
      cases env.debug with
      | true => exact h
      | false => exact hreport message

/-- A check in two states that are alike leaves them alike. -/
private theorem checkService_alike {state state' : CheckState}
    (h : CheckState.Alike t.host known known' state state') :
    CheckState.Alike t.host known known'
      (t.checkService env service plugin state).2
      (t.checkService env service plugin state').2 := by
  cases hdata : t.dataFor env service plugin with
  | error result =>
      rw [checkService_of_noData hdata, checkService_of_noData hdata]
      exact h
  | ok data =>
      obtain ⟨hending, hcancels⟩ :=
        invoke_congr hdata (h.store.agreeFor service.id)
      rw [checkService_of_data hdata, checkService_of_data hdata, ← hending]
      refine conclude_alike ⟨?_, ?_, h.crashes⟩
      · show ValueStore.AgreeOn t.host (t.invoke env service plugin _ _).store
          (t.invoke env service plugin _ _).store
        rw [invoke_store hdata, invoke_store hdata,
          copies_congr (h.store.agreeFor service.id)]
        exact h.store.commitAll
      · show (state.cancelled || _) = (state'.cancelled || _)
        rw [h.cancelled, hcancels]

end Topology

-- ==================================================== one turn

namespace CheckPlan

variable {plan : CheckPlan} {env : CheckEnvironment} {registry : CheckRegistry}

/-- A turn in two states that are alike has the same answer in both, and
leaves them alike. -/
private theorem checkOne_alike (plan : CheckPlan) (env : CheckEnvironment)
    (registry : CheckRegistry) (service : Service) {state state' : CheckState}
    (h : CheckState.Alike plan.topology.host known known' state state') :
    ServiceOutcome.SameAnswers
        ((plan.checkOne env registry service state).1.map (·.toList))
        ((plan.checkOne env registry service state').1.map (·.toList))
      ∧ CheckState.Alike plan.topology.host known known'
        (plan.checkOne env registry service state).2
        (plan.checkOne env registry service state').2 := by
  rcases checkOne_cases plan env registry service with
    ⟨-, heq⟩ | ⟨-, -, heq⟩ | ⟨plugin, -, -, heq⟩
  · rw [heq state, heq state']
    exact ⟨List.Forall₂.nil, h⟩
  · rw [heq state, heq state']
    exact ⟨List.Forall₂.cons (Or.inl rfl) List.Forall₂.nil, h⟩
  · rw [heq state, heq state']
    refine ⟨?_, Topology.checkService_alike h⟩
    have hsame : ServiceOutcome.SameAnswer
        (plan.topology.checkService env service plugin state).1
        (plan.topology.checkService env service plugin state').1 :=
      Topology.checkService_sameAnswer rfl (h.store.agreeFor service.id)
    generalize (plan.topology.checkService env service plugin state).1 = answer
      at hsame ⊢
    generalize (plan.topology.checkService env service plugin state').1
      = answer' at hsame ⊢
    cases answer with
    | error abort =>
        cases answer' with
        | error abort' => exact hsame
        | ok outcome' => cases hsame
    | ok outcome =>
        cases answer' with
        | error abort' => cases hsame
        | ok outcome' => exact List.Forall₂.cons hsame List.Forall₂.nil

-- ==================================================== whole runs

/-- A run in two states that are alike comes to the same results in both, and
leaves them alike. -/
theorem checkFrom_alike {services : List Service} :
    ∀ {position : Nat} {state state' : CheckState},
      CheckState.Alike plan.topology.host known known' state state' →
      ServiceOutcome.SameAnswers
          (plan.checkFrom env registry position services state).1
          (plan.checkFrom env registry position services state').1
        ∧ CheckState.Alike plan.topology.host known known'
          (plan.checkFrom env registry position services state).2
          (plan.checkFrom env registry position services state').2 := by
  induction services with
  | nil => intro position state state' h; exact ⟨List.Forall₂.nil, h⟩
  | cons service rest ih =>
      intro position state state' h
      obtain ⟨hanswers, halike⟩ := plan.checkOne_alike env registry service h
      unfold checkFrom
      rw [h.cancelled]
      split
      case isTrue => exact ⟨rfl, h⟩
      case isFalse =>
        generalize plan.checkOne env registry service state = one
          at hanswers halike ⊢
        generalize plan.checkOne env registry service state' = one'
          at hanswers halike ⊢
        obtain ⟨answer, after⟩ := one
        obtain ⟨answer', after'⟩ := one'
        cases answer with
        | error abort =>
            cases answer' with
            | error abort' => exact ⟨hanswers, halike⟩
            | ok outcome' => cases hanswers
        | ok outcome =>
            cases answer' with
            | error abort' => cases hanswers
            | ok outcome' =>
                obtain ⟨hlater, halike⟩ := @ih (position + 1) _ _ halike
                exact ⟨.append hanswers hlater, halike⟩

/-- A run leaves all namespaces of other hosts alone. -/
theorem checkFrom_frame {services : List Service} {key : NamespaceKey}
    (hkey : key.host ≠ plan.topology.host) {position : Nat}
    {state : CheckState} :
    (plan.checkFrom env registry position services state).2.store.get? key
      = state.store.get? key := by
  let Same (s : CheckState) : Prop := s.store.get? key = state.store.get? key
  have hone : ∀ service s, Same s →
      Same (plan.checkOne env registry service s).2 :=
    fun service s hsame => (checkOne_frame fun h => hkey h.1).trans hsame
  exact checkFrom_keeps hone (P := Same) rfl

end CheckPlan

end HostWatch
