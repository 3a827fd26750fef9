/-
The data that a service is checked with: the sections that its plugin asks
for, of the host or of the nodes that own the service.
-/
import HostWatch.Check.Call
import HostWatch.Section.Provider
import HostWatch.Service
import HostWatch.ServiceResult

namespace HostWatch

/-- The host that is being checked; a cluster has nodes in place of sources of its own. -/
structure Topology where
  host : HostName
  isCluster : Bool := false
  nodes : List HostName := []
deriving DecidableEq, Repr

/-- The host to which a node's service belongs. -/
abbrev EffectiveHost := HostName → String → HostName

/-- The sections of a service. -/
inductive ServiceSections where
  | host (sections : SectionData)
  | cluster (nodes : SortedMap HostName SectionData)

/-- The sections of a service, and the age of those that come from a cache. -/
structure ServiceData where
  sections : ServiceSections
  cacheInfo : Option CacheInfo

/-- What a provider has for a list of sections, if it has anything, and the ages of it. -/
def SectionProvider.collect? (p : SectionProvider) (names : List ParsedName) :
    Option (SectionData × List CacheInfo) :=
  let found := names.map fun name => (name, p.resolve name)
  if found.all fun (_, resolved) => resolved.isNone then none
  else
    some (.ofList (found.map fun (name, resolved) => (name, resolved.map (·.data))),
      found.filterMap fun (_, resolved) => resolved.bind (·.cacheInfo))

/-- What is there under a host key for a list of sections, if there is anything. -/
def Providers.collect? (providers : Providers) (names : List ParsedName) (key : HostKey) :
    Option (SectionData × List CacheInfo) :=
  (providers.get? key).bind fun provider => provider.collect? names

/-- The nodes that own a service of a cluster; all of them, if none does. -/
def Topology.owningNodes (t : Topology) (description : String) (effective : EffectiveHost) :
    List HostName :=
  let owners := t.nodes.filter fun node => effective node description == t.host
  if owners.isEmpty then t.nodes else owners

/-- The data of some nodes; nodes without data do not occur in it. -/
def clusterData? (providers : Providers) (names : List ParsedName) (keys : List HostKey) :
    Option ServiceData :=
  let found := keys.filterMap fun key => (Providers.collect? providers names key).map (key.host, ·)
  if found.isEmpty then none
  else
    some {
      sections := .cluster (.ofList (found.map fun (host, data, _) => (host, data)))
      cacheInfo := CacheInfo.aggregate (found.flatMap fun (_, _, infos) => infos) }

/-- The data of a service, or the result of a service without data. -/
def serviceData (t : Topology) (providers : Providers) (service : Service)
    (names : List ParsedName) (sourceType : SourceType) (effective : EffectiveHost) :
    Except ServiceResult ServiceData :=
  if t.isCluster then
    let nodes := t.owningNodes service.description effective
    match clusterData? providers names (nodes.map (⟨·, sourceType⟩)) with
    | some data => .ok data
    | none => .error (.clusterReceivedNoData nodes)
  else
    match Providers.collect? providers names ⟨t.host, sourceType⟩ with
    | some (sections, infos) => .ok ⟨.host sections, CacheInfo.aggregate infos⟩
    | none => .error .receivedNoData

end HostWatch
