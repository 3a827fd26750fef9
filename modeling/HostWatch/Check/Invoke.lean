/-
Checking one service: its data is put together, its plugin is called, and
whatever comes of the call becomes a result. Failures of the plugin are
contained: they become a result with a crash report, unless failures are
to be let through.
-/
import HostWatch.Check.Cluster
import HostWatch.Check.Crash
import HostWatch.Check.Data
import HostWatch.Check.Locks
import HostWatch.Error
import HostWatch.Text.Utf8

namespace HostWatch

/-- What the checks of a host have to go by. -/
structure CheckEnvironment where
  providers : Providers
  periods : PeriodOracle
  effectiveHost : EffectiveHost
  /-- How a service of a cluster is checked. -/
  clusterMode : HostName → String → ClusterMode
  snmpBackend : SnmpBackend := .inline
  /-- What the agent has delivered last. -/
  agentOutput : Option ByteArray := none
  /-- Whether failures of plugins are let through. -/
  debug : Bool := false
  /-- The identity of the crash report that follows a number of others. -/
  crashId : Nat → String
  /-- The time of crash reports. -/
  time : String

/-- What the checks of a run leave behind. -/
structure CheckState where
  store : ValueStore := ∅
  /-- The crash reports in order. -/
  crashes : List CrashReport := []
  /-- The calls of check functions in order. -/
  calls : List Invocation := []
  locks : InvocationLocks := ∅
  /-- Whether a check function has asked for the run to be broken off. -/
  cancelled : Bool := false

/-- The result of a service. -/
structure ServiceOutcome where
  service : Service
  /-- Whether the result is to be passed on. -/
  submit : Bool
  dataReceived : Bool
  result : ServiceResult
  cacheInfo : Option CacheInfo

namespace ServiceOutcome

/-- The result of a service for which there is no data. -/
def noData (service : Service) (result : ServiceResult) : ServiceOutcome :=
  { service, submit := false, dataReceived := false, result, cacheInfo := none }

/-- The result of a service whose plugin does not exist. -/
def notImplemented (service : Service) : ServiceOutcome :=
  { service, submit := true, dataReceived := true, result := .notImplemented, cacheInfo := none }

/-- The result of a service whose plugin has come to a result. -/
def finished (service : Service) (result : ServiceResult) (cacheInfo : Option CacheInfo) :
    ServiceOutcome :=
  { service, submit := true, dataReceived := true, result, cacheInfo }

/-- The result of a service whose plugin asks for its results to be ignored. -/
def ignored (service : Service) (message : Option String) : ServiceOutcome where
  service := service
  submit := false
  dataReceived := true
  result :=
    { state := .ok
      output := (message.filter (· != "")).getD "No service summary available" }
  cacheInfo := none

end ServiceOutcome

namespace Topology

/-- The service of a host that is being checked. -/
def current (t : Topology) (service : Service) : CurrentService :=
  { host := t.host, description := service.description, id := service.id }

/-- The arguments of a service's check function. -/
def callFor (env : CheckEnvironment) (service : Service) (plugin : CheckPlugin)
    (data : ServiceData) : AnyCall :=
  let params := plugin.defaults.map fun defaults =>
    service.parameters.compute defaults env.periods
  match data.sections with
  | .host sections => .host { item := service.item, params, sections }
  | .cluster nodes => .cluster { item := service.item, params, nodes }

/-- Calls the check function of a service, no other call for it being under way. -/
def invoke (t : Topology) (env : CheckEnvironment) (service : Service) (plugin : CheckPlugin)
    (call : AnyCall) (store : ValueStore) : Invoked :=
  let current := t.current service
  match call with
  | .host call => plugin.invoke call current current.namespaceKey store
  | .cluster call =>
    plugin.invokeCluster (env.clusterMode t.host service.description) call current store

/-- The report on a check function that failed or broke off. -/
def crashReport (t : Topology) (env : CheckEnvironment) (service : Service) (call : AnyCall)
    (message : String) (number : Nat) : CrashReport where
  id := env.crashId number
  time := env.time
  host := t.host
  description := service.description
  plugin := service.plugin
  arguments := call.toValue
  isCluster := t.isCluster
  isEnforced := service.isEnforced
  snmpBackend := env.snmpBackend
  agentOutput := env.agentOutput.map Text.ofBytes
  message := message

/-- Turns the ending of a service's check function into a result. -/
def conclude (t : Topology) (env : CheckEnvironment) (service : Service) (call : AnyCall)
    (cacheInfo : Option CacheInfo) (ending : Ending) (state : CheckState) :
    Except Abort ServiceOutcome × CheckState :=
  let contain (message : String) (abort : Abort) :=
    if env.debug then (Except.error abort, state)
    else
      let report := t.crashReport env service call message state.crashes.length
      (.ok (.finished service report.result cacheInfo),
        { state with crashes := state.crashes ++ [report] })
  match ending with
  | .yielded outputs => (.ok (.finished service (.ofOutputs outputs) cacheInfo), state)
  | .ignored message => (.ok (.ignored service message), state)
  | .timedOut => (.error (.error .timeout), state)
  | .failed message => contain message (.error (.pluginCrash service.plugin message))
  | .crashed message => contain message (.crash message)

/-- Checks a service with its plugin. -/
def checkService (t : Topology) (env : CheckEnvironment) (service : Service)
    (plugin : CheckPlugin) (state : CheckState) : Except Abort ServiceOutcome × CheckState :=
  match serviceData t env.providers service plugin.sections (PluginName.sourceType service.plugin)
      env.effectiveHost with
  | .error result => (.ok (.noData service result), state)
  | .ok data =>
    let call := callFor env service plugin data
    let lock : LockKey := { host := t.host, service := service.id }
    let locks := (state.locks.acquire? lock).getD state.locks
    let invoked := t.invoke env service plugin call state.store
    t.conclude env service call data.cacheInfo invoked.ending
      { state with
        store := invoked.store
        calls := state.calls ++ invoked.calls
        locks := locks.release lock
        cancelled := state.cancelled || invoked.cancels }

end Topology

end HostWatch
