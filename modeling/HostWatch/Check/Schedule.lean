/-
Checking the services of a host one after the other, in the order in which
they are configured. Services whose plugin is not selected, or that are
outside of their time period, are left out.
-/
import HostWatch.Check.Invoke

namespace HostWatch

/-- What a run on a host is about. -/
structure CheckPlan where
  topology : Topology
  services : List Service
  selection : PluginSelection := .everything
  /-- Whether the run has been cancelled from outside when it reaches the service at a position. -/
  cancelledAt : Nat → Bool := fun _ => false

namespace CheckPlan

/-- Checks a service, if it is its turn. -/
def checkOne (plan : CheckPlan) (env : CheckEnvironment) (registry : CheckRegistry)
    (service : Service) (state : CheckState) :
    Except Abort (Option ServiceOutcome) × CheckState :=
  if !plan.selection.selects service.plugin then (.ok none, state)
  else
    match registry.find? service.plugin with
    | none => (.ok (some (.notImplemented service)), state)
    | some plugin =>
      if outsidePeriod env.periods service.checkPeriod then (.ok none, state)
      else
        let (outcome, state) := plan.topology.checkService env service plugin state
        (outcome.map some, state)

/-- Checks the services from a position on, unless the run is cancelled. -/
def checkFrom (plan : CheckPlan) (env : CheckEnvironment) (registry : CheckRegistry)
    (position : Nat) (services : List Service) (state : CheckState) :
    Except Abort (List ServiceOutcome) × CheckState :=
  match services with
  | [] => (.ok [], state)
  | service :: rest =>
    if plan.cancelledAt position || state.cancelled then (.error (.error .timeout), state)
    else
      match plan.checkOne env registry service state with
      | (.error abort, state) => (.error abort, state)
      | (.ok outcome, state) =>
        let (outcomes, state) := checkFrom plan env registry (position + 1) rest state
        (outcomes.map fun outcomes => outcome.toList ++ outcomes, state)

/-- Checks all services of a plan. -/
def check (plan : CheckPlan) (env : CheckEnvironment) (registry : CheckRegistry)
    (state : CheckState) : Except Abort (List ServiceOutcome) × CheckState :=
  plan.checkFrom env registry 0 plan.services state

end CheckPlan

end HostWatch
