/-
Checking one service: everything that can come of it.

There is data for the service or there is not (`checkService_of_noData`,
`checkService_of_data`), and a call ends in one of five ways, of which
`conclude` makes a result. The inversion lemmas `conclude_ok` and
`conclude_error` list what can have happened, guards included, so the
proofs about runs split into these cases and never unfold the check
itself.

The store is a matter of its own: what becomes of the ending does not
touch it, so its effect is that of the call (`checkService_store`), and
with it the frame (`checkService_frame`) and the comparison of two stores
(`checkService_agree`) come straight from the opened namespaces.
-/
import HostWatch.Proofs.Check.Invocation

namespace HostWatch

/-- The message of an ending that is contained: a failure or a break-off. -/
def Ending.failure? : Ending → Option String
  | .failed message | .crashed message => some message
  | .yielded _ | .ignored _ | .timedOut => none

namespace Topology

/-- How the call for a service ends, if there is data to call its plugin
with. -/
def ending? (t : Topology) (env : CheckEnvironment) (service : Service)
    (plugin : CheckPlugin) (store : ValueStore) : Option Ending :=
  match t.dataFor env service plugin with
  | .ok data =>
    some (t.invoke env service plugin (callFor env service plugin data)
      store).ending
  | .error _ => none

variable {t : Topology} {env : CheckEnvironment} {service : Service}
    {plugin : CheckPlugin}

-- ==================================================== the endings of a call

/-- The result of a service whose check function failed or broke off, and
the state with the report on it. -/
def contained (t : Topology) (env : CheckEnvironment) (service : Service)
    (call : AnyCall) (info : Option CacheInfo) (message : String)
    (state : CheckState) :
    ServiceOutcome × CheckState :=
  let report := t.crashReport env service call message state.crashes.length
  (.finished service report.result info,
    { state with crashes := state.crashes ++ [report] })

/-- A result comes of outputs, of a wish to be ignored, or of a
contained failure. -/
theorem conclude_ok {call : AnyCall} {info : Option CacheInfo} {ending : Ending}
    {outcome : ServiceOutcome} {state after : CheckState}
    (h : t.conclude env service call info ending state = (.ok outcome, after)) :
    (∃ outputs, ending = .yielded outputs
      ∧ outcome = .finished service (.ofOutputs outputs) info ∧ after = state)
    ∨ (∃ message, ending = .ignored message
      ∧ outcome = .ignored service message ∧ after = state)
    ∨ ∃ message, ending.failure? = some message
      ∧ (outcome, after) = t.contained env service call info message state := by
  unfold conclude at h
  cases ending with
  | yielded outputs =>
      injection h with h1 h2
      injection h1 with h1
      exact Or.inl ⟨outputs, rfl, h1.symm, h2.symm⟩
  | ignored message =>
      injection h with h1 h2
      injection h1 with h1
      exact Or.inr (Or.inl ⟨message, rfl, h1.symm, h2.symm⟩)
  | timedOut =>
      injection h with h1 h2
      cases h1
  | failed message | crashed message =>
      simp only at h
      split at h
      case isTrue => injection h with h1 h2; cases h1
      case isFalse =>
        injection h with h1 h2
        injection h1 with h1
        exact Or.inr (Or.inr ⟨message, rfl, by rw [← h1, ← h2]; rfl⟩)

/-- Where failures are contained, only an interrupted call ends a run. -/
theorem conclude_error {call : AnyCall} {info : Option CacheInfo}
    {ending : Ending} {abort : Abort} {state after : CheckState}
    (hdebug : env.debug = false)
    (h : t.conclude env service call info ending state
      = (.error abort, after)) :
    ending = .timedOut ∧ abort = .error .timeout := by
  unfold conclude at h
  cases ending with
  | yielded outputs | ignored message =>
      injection h with h1 h2
      cases h1
  | timedOut =>
      injection h with h1 h2
      injection h1 with h1
      exact ⟨rfl, h1.symm⟩
  | failed message | crashed message =>
      simp only [hdebug, Bool.false_eq_true, if_false] at h
      injection h with h1 h2
      cases h1

/-- What becomes of an ending touches neither the store nor the calls. -/
theorem conclude_keeps {call : AnyCall} {info : Option CacheInfo}
    {ending : Ending} {state : CheckState} :
    (t.conclude env service call info ending state).2.store = state.store
      ∧ (t.conclude env service call info ending state).2.calls = state.calls
      ∧ (t.conclude env service call info ending state).2.cancelled
        = state.cancelled := by
  unfold conclude
  cases ending with
  | yielded outputs | ignored message | timedOut => exact ⟨rfl, rfl, rfl⟩
  | failed message | crashed message =>
      simp only
      split <;> exact ⟨rfl, rfl, rfl⟩

-- ==================================================== one check

/-- The state in which the ending of a call is looked at. -/
def called (t : Topology) (env : CheckEnvironment) (service : Service)
    (plugin : CheckPlugin) (data : ServiceData)
    (state : CheckState) : CheckState :=
  let invoked :=
    t.invoke env service plugin (callFor env service plugin data) state.store
  let lock : LockKey := { host := t.host, service := service.id }
  { state with
    store := invoked.store
    calls := state.calls ++ invoked.calls
    locks := ((state.locks.acquire? lock).getD state.locks).release lock
    cancelled := state.cancelled || invoked.cancels }

/-- A service without data is passed over: nothing is called and nothing
changes. -/
theorem checkService_of_noData {result : ServiceResult}
    (h : t.dataFor env service plugin = .error result) (state : CheckState) :
    t.checkService env service plugin state
      = (.ok (.noData service result), state) := by
  unfold checkService
  unfold dataFor at h
  rw [h]

/-- A service with data is called, and something becomes of the ending. -/
theorem checkService_of_data {data : ServiceData}
    (h : t.dataFor env service plugin = .ok data) (state : CheckState) :
    t.checkService env service plugin state =
      t.conclude env service (callFor env service plugin data) data.cacheInfo
        (t.invoke env service plugin (callFor env service plugin data)
          state.store).ending
        (t.called env service plugin data state) := by
  unfold checkService
  unfold dataFor at h
  rw [h]
  rfl

/-- Without data there is no call that could end. -/
theorem ending?_of_noData {result : ServiceResult}
    (h : t.dataFor env service plugin = .error result) (store : ValueStore) :
    t.ending? env service plugin store = none := by
  unfold ending?
  rw [h]

/-- With data the ending is that of the call. -/
theorem ending?_of_data {data : ServiceData}
    (h : t.dataFor env service plugin = .ok data)
    (store : ValueStore) :
    t.ending? env service plugin store
      = some (t.invoke env service plugin (callFor env service plugin data)
        store).ending := by
  unfold ending?
  rw [h]

/-- A service comes to a result without data, or by the way in which its
call ends. -/
theorem checkService_ok {outcome : ServiceOutcome} {state after : CheckState}
    (h : t.checkService env service plugin state = (.ok outcome, after)) :
    (∃ result, t.dataFor env service plugin = .error result
        ∧ outcome = .noData service result ∧ after = state)
      ∨ ∃ data ending, t.dataFor env service plugin = .ok data
          ∧ t.ending? env service plugin state.store = some ending
          ∧ t.conclude env service (callFor env service plugin data)
              data.cacheInfo ending (t.called env service plugin data state)
            = (.ok outcome, after) := by
  cases hdata : t.dataFor env service plugin with
  | error result =>
      rw [checkService_of_noData hdata] at h
      injection h with houtcome hafter
      injection houtcome with houtcome
      exact Or.inl ⟨result, rfl, houtcome.symm, hafter.symm⟩
  | ok data =>
      rw [checkService_of_data hdata] at h
      exact Or.inr ⟨data, _, rfl, ending?_of_data hdata _, h⟩

/-- Where failures are contained, a service comes to no result only if its
call is interrupted. -/
theorem checkService_error {abort : Abort} {state after : CheckState}
    (hdebug : env.debug = false)
    (h : t.checkService env service plugin state = (.error abort, after)) :
    abort = .error .timeout
      ∧ t.ending? env service plugin state.store = some .timedOut := by
  cases hdata : t.dataFor env service plugin with
  | error result =>
      rw [checkService_of_noData hdata] at h
      cases h
  | ok data =>
      rw [checkService_of_data hdata] at h
      obtain ⟨hending, habort⟩ := conclude_error hdebug h
      rw [ending?_of_data hdata, hending]
      exact ⟨habort, rfl⟩

/-- A service whose call is interrupted comes to no result. -/
theorem not_timedOut_of_ok {outcome : ServiceOutcome} {state after : CheckState}
    (h : t.checkService env service plugin state = (.ok outcome, after)) :
    t.ending? env service plugin state.store ≠ some .timedOut := by
  intro htimedOut
  rcases checkService_ok h with
    ⟨result, hdata, -, -⟩ | ⟨data, ending, -, hending, hconclude⟩
  · rw [ending?_of_noData hdata] at htimedOut
    cases htimedOut
  · rw [htimedOut] at hending
    cases hending
    cases hconclude

-- ==================================================== crash reports

/-- The report that the check of a service adds to those of a state: one
if its call fails or breaks off. -/
def crash? (t : Topology) (env : CheckEnvironment) (service : Service)
    (plugin : CheckPlugin) (state : CheckState) : Option CrashReport :=
  match t.dataFor env service plugin with
  | .error _ => none
  | .ok data =>
    let call := callFor env service plugin data
    (t.invoke env service plugin call state.store).ending.failure?.map
      fun message =>
      t.crashReport env service call message state.crashes.length

/-- A check that comes to a result adds the report on its call, if there is
to be one, and no other. -/
theorem checkService_crashes {outcome : ServiceOutcome}
    {state after : CheckState}
    (h : t.checkService env service plugin state = (.ok outcome, after)) :
    after.crashes = state.crashes
      ++ (t.crash? env service plugin state).toList := by
  rcases checkService_ok h with
    ⟨result, hdata, -, rfl⟩ | ⟨data, ending, hdata, hending, hconclude⟩
  · unfold crash?
    rw [hdata]
    exact (List.append_nil _).symm
  · rw [ending?_of_data hdata] at hending
    injection hending with hending
    have hcrash : t.crash? env service plugin state
        = ending.failure?.map fun message =>
        t.crashReport env service (callFor env service plugin data) message
          state.crashes.length := by
      unfold crash?
      rw [hdata]
      simp only [hending]
    rw [hcrash]
    rcases conclude_ok hconclude with
      ⟨outputs, rfl, -, rfl⟩ | ⟨message, rfl, -, rfl⟩ |
      ⟨message, hfailure, hcontained⟩
    · exact (List.append_nil _).symm
    · exact (List.append_nil _).symm
    · injection hcontained with _ hafter
      rw [hafter, hfailure]
      rfl

-- ==================================================== the store

/-- The effect of a check on the store is that of the call, whatever
becomes of its ending. -/
theorem checkService_store {data : ServiceData}
    (h : t.dataFor env service plugin = .ok data)
    (state : CheckState) :
    (t.checkService env service plugin state).2.store
      = state.store.commitAll
          (t.copies env service plugin (callFor env service plugin data)
            state.store) := by
  rw [checkService_of_data h, conclude_keeps.1]
  exact invoke_store h state.store

/-- A check leaves no empty namespace behind. -/
theorem checkService_compact {state : CheckState} (h : state.store.Compact) :
    (t.checkService env service plugin state).2.store.Compact := by
  cases hdata : t.dataFor env service plugin with
  | error result =>
      rw [checkService_of_noData hdata]
      exact h
  | ok data =>
      rw [checkService_store hdata]
      exact h.commitAll

/-- A check leaves the namespaces of all other services alone. -/
theorem checkService_frame {state : CheckState} {key : NamespaceKey}
    (hkey : ¬ ValueStore.Owns t.host service.id key) :
    (t.checkService env service plugin state).2.store.get? key
      = state.store.get? key := by
  cases hdata : t.dataFor env service plugin with
  | error result => rw [checkService_of_noData hdata]
  | ok data =>
      rw [checkService_store hdata]
      refine ValueStore.get?_commitAll_of_not_mem fun hmem => ?_
      obtain ⟨copy, hcopy, rfl⟩ := List.mem_map.mp hmem
      exact hkey (copies_owned hcopy)

/-- Stores that agree for a service agree for it after its check. Apart from
the data of the service, what was delivered to the host has no part in it. -/
theorem checkService_agree {providers : Providers}
    {agentOutput : Option ByteArray} {state state' : CheckState}
    (hdata : t.dataFor env service plugin
      = t.dataFor { env with providers, agentOutput } service plugin)
    (h : ValueStore.AgreeFor t.host service.id state.store state'.store) :
    ValueStore.AgreeFor t.host service.id
      (t.checkService env service plugin state).2.store
      (t.checkService { env with providers, agentOutput } service plugin
        state').2.store := by
  cases hresult : t.dataFor env service plugin with
  | error result =>
      rw [checkService_of_noData hresult,
        checkService_of_noData (hdata ▸ hresult)]
      exact h
  | ok data =>
      rw [checkService_store hresult, checkService_store (hdata ▸ hresult),
        copies_congr h]
      exact h.commitAll

end Topology

end HostWatch
