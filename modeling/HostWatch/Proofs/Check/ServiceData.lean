/-
The data of a service, exactly.

Which host keys a service reads is said without the way they are computed
(`Topology.Reads`): the host itself or the nodes that own the service, all of
them if none does, and always the one kind of source that the plugin's name
tells. There is data exactly if some declared section is found at one of
these keys. The data then has the declared names with what is found under
each (`SectionData.Gathers`), for a cluster at the nodes where anything is
found and at no others.

The age of the data is the envelope of the ages of what was found
(`CacheInfo.IsEnvelope`): the least retrieval time and the greatest age. That
the envelope is folded over a list, with nodes and names in some order and
some of them twice, does not show in it: it is the envelope of a set
(`CacheInfo.aggregate_isEnvelope`).

What is found at the keys read decides everything (`serviceData_congr`), so
providers that agree there are as good as one another.
-/
import HostWatch.Proofs.Check.Resolution
import HostWatch.Proofs.Section.Provider
import Mathlib.Order.Bounds.Basic

namespace HostWatch

-- ==================================================== the envelope of ages

namespace CacheInfo

/-- The envelope of a set of ages: the least retrieval time and the greatest
age in it. A set without ages has none. -/
def IsEnvelope (ages : Set CacheInfo) : Option CacheInfo → Prop
  | none => ages = ∅
  | some e =>
    IsLeast (retrievalTime '' ages) e.retrievalTime
      ∧ IsGreatest (maxAge '' ages) e.maxAge

/-- One more age widens the envelope. -/
theorem IsEnvelope.insert {ages : Set CacheInfo} {e : CacheInfo}
    (h : IsEnvelope ages (some e)) (info : CacheInfo) :
    IsEnvelope (Insert.insert info ages) (some (e.envelope info)) := by
  obtain ⟨hleast, hgreatest⟩ := h
  unfold IsEnvelope envelope
  rw [Set.image_insert_eq, Set.image_insert_eq, min_comm, max_comm]
  exact ⟨hleast.insert info.retrievalTime, hgreatest.insert info.maxAge⟩

/-- Folding ages into an envelope gives the envelope of all of them. -/
private theorem isEnvelope_foldl (rest : List CacheInfo) :
    ∀ {ages : Set CacheInfo} {e : CacheInfo}, IsEnvelope ages (some e) →
      IsEnvelope (ages ∪ {info | info ∈ rest})
        (some (rest.foldl envelope e)) := by
  induction rest with
  | nil => intro ages e h; simpa using h
  | cons info rest ih =>
      intro ages e h
      have hages : ages ∪ {i | i ∈ info :: rest}
          = Insert.insert info ages ∪ {i | i ∈ rest} := by
        ext i
        simp only [Set.mem_union, Set.mem_insert_iff, Set.mem_ofPred_eq,
          List.mem_cons]
        tauto
      rw [hages, List.foldl_cons]
      exact ih (h.insert info)

/-- The aggregate of a list of ages is the envelope of their set. -/
theorem aggregate_isEnvelope (infos : List CacheInfo) :
    IsEnvelope {info | info ∈ infos} (aggregate infos) := by
  cases infos with
  | nil => simp [aggregate, IsEnvelope]
  | cons info rest =>
      have hone : IsEnvelope {info} (some info) := by
        unfold IsEnvelope
        rw [Set.image_singleton, Set.image_singleton]
        exact ⟨isLeast_singleton, isGreatest_singleton⟩
      have hall := isEnvelope_foldl rest hone
      have hages : ({info} : Set CacheInfo) ∪ {i | i ∈ rest}
          = {i | i ∈ info :: rest} := by
        ext i
        simp
      rw [hages] at hall
      exact hall

/-- A set of ages has one envelope. -/
theorem IsEnvelope.unique {ages : Set CacheInfo} {a b : Option CacheInfo}
    (ha : IsEnvelope ages a) (hb : IsEnvelope ages b) : a = b := by
  -- an envelope is only where there are ages
  have hsome : ∀ {e}, IsEnvelope ages (some e) → ¬ IsEnvelope ages none := by
    rintro e ⟨⟨⟨info, hinfo, -⟩, -⟩, -⟩ hempty
    rw [show ages = ∅ from hempty] at hinfo
    exact hinfo
  cases a with
  | none =>
      cases b with
      | none => rfl
      | some e => exact absurd ha (hsome hb)
  | some e =>
      cases b with
      | none => exact absurd hb (hsome ha)
      | some e' =>
          obtain ⟨time, age⟩ := e
          obtain ⟨time', age'⟩ := e'
          have htime : time = time' := ha.1.unique hb.1
          have hage : age = age' := ha.2.unique hb.2
          rw [htime, hage]

/-- The aggregate of ages depends on nothing but what the ages are. -/
theorem aggregate_congr {infos infos' : List CacheInfo}
    (h : ∀ info, info ∈ infos ↔ info ∈ infos') :
    aggregate infos = aggregate infos' := by
  have hages : {info | info ∈ infos} = {info | info ∈ infos'} := Set.ext h
  refine (aggregate_isEnvelope infos).unique ?_
  rw [hages]
  exact aggregate_isEnvelope infos'

end CacheInfo

-- ==================================================== the keys read

/-- A service reads a host key: it is of the kind that the plugin's name
tells, and it belongs to the host; or, for a cluster, to a node to which the
service belongs there, where a service that belongs to no node belongs to
all. -/
structure Topology.Reads (t : Topology) (effective : EffectiveHost)
    (service : Service) (key : HostKey) : Prop where
  kind : key.sourceType = .management
    ↔ PluginName.isManagement service.plugin = true
  host : t.isCluster = false → key.host = t.host
  node : t.isCluster = true → key.host ∈ t.nodes
    ∧ (effective key.host service.description = t.host
      ∨ ∀ node ∈ t.nodes, effective node service.description ≠ t.host)

namespace Topology

variable {t : Topology} {effective : EffectiveHost} {service : Service}

/-- The owners of a service are the nodes that belong to the cluster for it,
or all nodes if there are no such. -/
theorem mem_owningNodes {description : String} {node : HostName} :
    node ∈ t.owningNodes description effective
      ↔ node ∈ t.nodes ∧ (effective node description = t.host
          ∨ ∀ other ∈ t.nodes, effective other description ≠ t.host) := by
  unfold owningNodes
  simp only [List.isEmpty_iff, List.filter_eq_nil_iff, beq_iff_eq]
  split
  case isTrue hnone => exact ⟨fun h => ⟨h, Or.inr hnone⟩, fun h => h.1⟩
  case isFalse hsome =>
    rw [List.mem_filter, beq_iff_eq]
    exact ⟨fun h => ⟨h.1, Or.inl h.2⟩,
      fun h => ⟨h.1, h.2.resolve_right hsome⟩⟩

/-- A management plugin reads management sources, and no other does. -/
private theorem sourceType_eq_iff {name : PluginName}
    {sourceType : SourceType} :
    (sourceType = .management ↔ PluginName.isManagement name = true)
      ↔ sourceType = PluginName.sourceType name := by
  unfold PluginName.sourceType
  cases sourceType <;> cases PluginName.isManagement name <;> simp

/-- A service reads no two keys of one host. -/
theorem Reads.eq_of_host_eq {key key' : HostKey}
    (h : t.Reads effective service key) (h' : t.Reads effective service key')
    (hhost : key.host = key'.host) : key = key' := by
  obtain ⟨host, sourceType⟩ := key
  obtain ⟨host', sourceType'⟩ := key'
  have hkind : sourceType = PluginName.sourceType service.plugin :=
    sourceType_eq_iff.mp h.kind
  have hkind' : sourceType' = PluginName.sourceType service.plugin :=
    sourceType_eq_iff.mp h'.kind
  rw [hkind, hkind', show host = host' from hhost]

/-- The keys that are computed for a plain host. -/
theorem reads_host_iff (hcluster : t.isCluster = false) {key : HostKey} :
    t.Reads effective service key
      ↔ key = ⟨t.host, PluginName.sourceType service.plugin⟩ := by
  obtain ⟨host, sourceType⟩ := key
  constructor
  · rintro ⟨hkind, hhost, -⟩
    have hhost : host = t.host := hhost hcluster
    have hkind : sourceType = PluginName.sourceType service.plugin :=
      sourceType_eq_iff.mp hkind
    rw [hhost, hkind]
  · intro h
    injection h with hhost hkind
    exact ⟨sourceType_eq_iff.mpr hkind, fun _ => hhost,
      fun h => (by rw [hcluster] at h; cases h)⟩

/-- The keys that are computed for a cluster. -/
theorem reads_node_iff (hcluster : t.isCluster = true) {key : HostKey} :
    t.Reads effective service key
      ↔ key ∈ (t.owningNodes service.description effective).map
          (⟨·, PluginName.sourceType service.plugin⟩) := by
  rw [List.mem_map]
  constructor
  · rintro ⟨hkind, -, hnode⟩
    refine ⟨key.host, mem_owningNodes.mpr (hnode hcluster), ?_⟩
    rw [← sourceType_eq_iff.mp hkind]
  · rintro ⟨node, hnode, rfl⟩
    exact ⟨sourceType_eq_iff.mpr rfl,
      fun h => (by rw [hcluster] at h; cases h),
      fun _ => mem_owningNodes.mp hnode⟩

end Topology

-- ==================================================== one host key

/-- The data has the declared names and no others, each with what is found
under it at the key, if anything is. -/
def SectionData.Gathers (data : SectionData) (providers : Providers)
    (names : List ParsedName) (key : HostKey) : Prop :=
  ∀ name, data.get? name
    = if name ∈ names then some ((providers.resolve? key name).map (·.data))
      else none

/-- The ages of what is found at a key. -/
def Providers.Ages (providers : Providers) (names : List ParsedName)
    (key : HostKey) (info : CacheInfo) : Prop :=
  ∃ name ∈ names, ∃ r, providers.resolve? key name = some r
    ∧ r.cacheInfo = some info

namespace Providers

variable {providers : Providers} {names : List ParsedName} {key : HostKey}

/-- What is collected at a key depends on what is found there. -/
theorem collect?_congr {providers' : Providers}
    (h : ∀ name ∈ names,
      providers.resolve? key name = providers'.resolve? key name) :
    Providers.collect? providers names key
      = Providers.collect? providers' names key := by
  have hfound : (names.map fun name => (name, providers.resolve? key name))
      = names.map fun name => (name, providers'.resolve? key name) :=
    List.map_congr_left fun name hname => by rw [h name hname]
  rw [collect?_eq, collect?_eq, hfound]

/-- What is collected at a key is gathered there, with the ages of what is
found. -/
theorem gathers_of_collect? {data : SectionData} {infos : List CacheInfo}
    (h : Providers.collect? providers names key = some (data, infos)) :
    data.Gathers providers names key
      ∧ ∀ info, info ∈ infos ↔ Providers.Ages providers names key info := by
  obtain ⟨hdata, rfl⟩ := Providers.get?_of_collect? h
  refine ⟨hdata, fun info => ?_⟩
  unfold Providers.Ages
  simp only [List.mem_filterMap, Option.bind_eq_some_iff]

/-- Something is collected at a key exactly if a declared section is found
there. -/
theorem collect?_isSome_iff :
    (Providers.collect? providers names key).isSome
      ↔ ∃ name ∈ names, (providers.resolve? key name).isSome := by
  rw [Option.isSome_iff_ne_none, ne_eq, Providers.collect?_eq_none_iff]
  simp [Option.isSome_iff_ne_none]

/-- Where there is an age something is collected. -/
theorem collect?_isSome_of_ages {info : CacheInfo}
    (h : Providers.Ages providers names key info) :
    (Providers.collect? providers names key).isSome := by
  obtain ⟨name, hname, r, hr, -⟩ := h
  exact collect?_isSome_iff.mpr ⟨name, hname, by rw [hr]; rfl⟩

end Providers

-- ==================================================== all the keys

/-- The sections of a service hold what is found at the keys that it reads:
those of a plain host gather the host's key, those of a cluster have the
nodes at which a declared section is found, and gather their keys. -/
def ServiceSections.Gather (t : Topology) (providers : Providers)
    (effective : EffectiveHost) (service : Service) (names : List ParsedName) :
    ServiceSections → Prop
  | .host sections =>
    t.isCluster = false ∧ ∀ key, t.Reads effective service key →
      sections.Gathers providers names key
  | .cluster nodes =>
    t.isCluster = true
      ∧ (∀ node, (nodes.get? node).isSome ↔ ∃ key, t.Reads effective service key
          ∧ key.host = node
          ∧ ∃ name ∈ names, (providers.resolve? key name).isSome)
      ∧ ∀ node sections, nodes.get? node = some sections →
          ∀ key, t.Reads effective service key → key.host = node →
            sections.Gathers providers names key

/-- The ages of what is found for a service at the keys that it reads. -/
def Topology.agesRead (t : Topology) (providers : Providers)
    (effective : EffectiveHost) (service : Service)
    (names : List ParsedName) : Set CacheInfo :=
  {info | ∃ key, t.Reads effective service key
    ∧ Providers.Ages providers names key info}

/-- The data of a service is all of what is found at the keys that it reads,
and as old as that. -/
structure ServiceData.IsExact (t : Topology) (providers : Providers)
    (effective : EffectiveHost) (service : Service) (names : List ParsedName)
    (data : ServiceData) : Prop where
  sections : data.sections.Gather t providers effective service names
  age : CacheInfo.IsEnvelope
    (t.agesRead providers effective service names) data.cacheInfo

variable {providers : Providers} {names : List ParsedName}

/-- What is collected at some keys, with the node of each. -/
def Providers.collectAll (providers : Providers) (names : List ParsedName)
    (keys : List HostKey) :
    List (HostName × SectionData × List CacheInfo) :=
  keys.filterMap fun key =>
    (Providers.collect? providers names key).map (key.host, ·)

namespace Providers

variable {keys : List HostKey}

/-- What is collected for a node is collected at a key of it. -/
theorem mem_collectAll {node : HostName} {sections : SectionData}
    {infos : List CacheInfo} :
    (node, sections, infos) ∈ Providers.collectAll providers names keys
      ↔ ∃ key ∈ keys, key.host = node
          ∧ Providers.collect? providers names key
            = some (sections, infos) := by
  unfold Providers.collectAll
  simp only [List.mem_filterMap, Option.map_eq_some_iff, Prod.mk.injEq,
    exists_eq_right_right]
  exact exists_congr fun key => and_congr_right fun _ => and_comm

/-- The sections of a node, by name of the node. No two keys may be of one
node, as only one of them could count. -/
theorem get?_collectAll
    (hkeys : ∀ key ∈ keys, ∀ key' ∈ keys, key.host = key'.host → key = key')
    {node : HostName} {sections : SectionData} :
    (SortedMap.ofList ((Providers.collectAll providers names keys).map
        fun (host, data, _) => (host, data))).get? node = some sections
      ↔ ∃ key ∈ keys, key.host = node
          ∧ ∃ infos, Providers.collect? providers names key
            = some (sections, infos) := by
  have hmem : ∀ node sections,
      (node, sections) ∈ (Providers.collectAll providers names keys).map
          (fun (host, data, _) => (host, data))
        ↔ ∃ key ∈ keys, key.host = node
          ∧ ∃ infos, Providers.collect? providers names key
            = some (sections, infos) := by
    intro node sections
    simp only [List.mem_map, Prod.exists, Prod.mk.injEq, mem_collectAll]
    constructor
    · rintro ⟨_, _, infos, ⟨key, hkey, hhost, hcollect⟩, rfl, rfl⟩
      exact ⟨key, hkey, hhost, infos, hcollect⟩
    · rintro ⟨key, hkey, hhost, infos, hcollect⟩
      exact ⟨_, _, infos, ⟨key, hkey, hhost, hcollect⟩, rfl, rfl⟩
  rw [SortedMap.get?_ofList_iff, hmem]
  intro node sections sections' h h'
  obtain ⟨key, hkey, hhost, infos, hcollect⟩ := (hmem _ _).mp h
  obtain ⟨key', hkey', hhost', infos', hcollect'⟩ := (hmem _ _).mp h'
  rw [hkeys key hkey key' hkey' (hhost.trans hhost'.symm), hcollect']
    at hcollect
  injection hcollect with hcollect
  injection hcollect with hsections _
  exact hsections.symm

/-- The ages that are collected at some keys are those of what is found. -/
theorem mem_ages_collectAll {info : CacheInfo} :
    info ∈ (Providers.collectAll providers names keys).flatMap
        (fun (_, _, infos) => infos)
      ↔ ∃ key ∈ keys, Providers.Ages providers names key info := by
  simp only [List.mem_flatMap, Prod.exists, mem_collectAll]
  constructor
  · rintro ⟨_, sections, infos, ⟨key, hkey, -, hcollect⟩, hinfo⟩
    exact ⟨key, hkey, ((gathers_of_collect? hcollect).2 info).mp hinfo⟩
  · rintro ⟨key, hkey, hage⟩
    obtain ⟨⟨sections, infos⟩, hcollect⟩ :=
      Option.isSome_iff_exists.mp (collect?_isSome_of_ages hage)
    exact ⟨key.host, sections, infos, ⟨key, hkey, rfl, hcollect⟩,
      ((gathers_of_collect? hcollect).2 info).mpr hage⟩

end Providers

/-- The data of some keys is made of what is collected at them, if anything
is. -/
theorem clusterData?_eq {keys : List HostKey}
    (hne : Providers.collectAll providers names keys ≠ []) :
    clusterData? providers names keys = some
      { sections := .cluster (.ofList ((Providers.collectAll providers names
          keys).map fun found => (found.1, found.2.1)))
        cacheInfo := CacheInfo.aggregate
          ((Providers.collectAll providers names keys).flatMap (·.2.2)) } := by
  unfold Providers.collectAll at *
  unfold clusterData?
  simp only
  rw [if_neg (by rw [List.isEmpty_iff]; exact hne)]

/-- The data of some keys, no two of one node, in terms of what is collected
at each of them. -/
theorem clusterData?_spec {keys : List HostKey} {data : ServiceData}
    (hkeys : ∀ key ∈ keys, ∀ key' ∈ keys, key.host = key'.host → key = key')
    (h : clusterData? providers names keys = some data) :
    ∃ nodes, data.sections = .cluster nodes
      ∧ (∀ node sections, nodes.get? node = some sections
          ↔ ∃ key ∈ keys, key.host = node
            ∧ ∃ infos, Providers.collect? providers names key
              = some (sections, infos))
      ∧ CacheInfo.IsEnvelope
          {info | ∃ key ∈ keys, Providers.Ages providers names key info}
          data.cacheInfo := by
  unfold clusterData? at h
  simp only at h
  split at h
  case isTrue => cases h
  case isFalse =>
    injection h with h
    subst h
    refine ⟨_, rfl, fun node sections => Providers.get?_collectAll hkeys, ?_⟩
    have henvelope := CacheInfo.aggregate_isEnvelope
      ((Providers.collectAll providers names keys).flatMap
        fun (_, _, infos) => infos)
    simp only [Providers.mem_ages_collectAll] at henvelope
    exact henvelope

namespace Topology

variable {t : Topology} {effective : EffectiveHost} {service : Service}

/-- There is data for a service exactly if a declared section is found at
some key that it reads. -/
theorem serviceData_isOk_iff :
    (∃ data, serviceData t providers service names
        (PluginName.sourceType service.plugin) effective = .ok data)
      ↔ ∃ key, t.Reads effective service key
          ∧ ∃ name ∈ names, (providers.resolve? key name).isSome := by
  unfold serviceData
  cases hcluster : t.isCluster with
  | false =>
      simp only [Bool.false_eq_true, if_false, reads_host_iff hcluster,
        exists_eq_left, ← Providers.collect?_isSome_iff]
      split
      case h_1 sections infos hcollect => simp [hcollect]
      case h_2 hcollect => simp [hcollect]
  | true =>
      simp only [if_true, reads_node_iff hcluster,
        ← Providers.collect?_isSome_iff]
      split
      case h_1 data hdata =>
        refine ⟨fun _ => ?_, fun _ => ⟨data, rfl⟩⟩
        by_contra hnone
        rw [(clusterData?_eq_none_iff ..).mpr] at hdata
        · cases hdata
        · intro key hkey
          rw [← Option.not_isSome_iff_eq_none]
          exact fun hsome => hnone ⟨key, hkey, hsome⟩
      case h_2 hnone =>
        rw [clusterData?_eq_none_iff] at hnone
        refine ⟨fun ⟨_, h⟩ => (by cases h), fun ⟨key, hkey, hsome⟩ => ?_⟩
        rw [hnone key hkey] at hsome
        cases hsome

/-- The data of a service of a plain host is exact. -/
theorem isExact_of_host (hcluster : t.isCluster = false) {data : ServiceData}
    (h : serviceData t providers service names
      (PluginName.sourceType service.plugin) effective = .ok data) :
    data.IsExact t providers effective service names := by
  unfold serviceData at h
  rw [if_neg (by rw [hcluster]; decide)] at h
  split at h
  case h_2 => cases h
  case h_1 sections infos hcollect =>
    injection h with h
    subst h
    obtain ⟨hgathers, hages⟩ := Providers.gathers_of_collect? hcollect
    refine ⟨⟨hcluster, fun key hkey => ?_⟩, ?_⟩
    · rw [(reads_host_iff hcluster).mp hkey]
      exact hgathers
    · have hset : t.agesRead providers effective service names
          = {info | info ∈ infos} := by
        ext info
        unfold agesRead
        simp only [Set.mem_ofPred_eq, reads_host_iff hcluster, exists_eq_left,
          hages]
      rw [hset]
      exact CacheInfo.aggregate_isEnvelope infos

/-- The data of a service of a cluster is exact. -/
theorem isExact_of_cluster (hcluster : t.isCluster = true) {data : ServiceData}
    (h : serviceData t providers service names
      (PluginName.sourceType service.plugin) effective = .ok data) :
    data.IsExact t providers effective service names := by
  unfold serviceData at h
  rw [if_pos hcluster] at h
  simp only at h
  split at h
  case h_2 => cases h
  case h_1 found hdata =>
    injection h with h
    subst h
    obtain ⟨nodes, hsections, hnodes, hage⟩ := clusterData?_spec
      (fun key hkey key' hkey' =>
        Reads.eq_of_host_eq ((reads_node_iff hcluster).mpr hkey)
          ((reads_node_iff hcluster).mpr hkey')) hdata
    simp only [← reads_node_iff hcluster] at hnodes hage
    refine ⟨?_, hage⟩
    rw [hsections]
    refine ⟨hcluster, fun node => ?_, fun node sections hget key hkey hhost =>
      ?_⟩
    · rw [Option.isSome_iff_exists]
      simp only [hnodes]
      constructor
      · rintro ⟨sections, key, hkey, hhost, infos, hcollect⟩
        exact ⟨key, hkey, hhost, Providers.collect?_isSome_iff.mp
          (by rw [hcollect]; rfl)⟩
      · rintro ⟨key, hkey, hhost, hfound⟩
        obtain ⟨⟨sections, infos⟩, hcollect⟩ := Option.isSome_iff_exists.mp
          (Providers.collect?_isSome_iff.mpr hfound)
        exact ⟨sections, key, hkey, hhost, infos, hcollect⟩
    · obtain ⟨key', hkey', hhost', infos, hcollect⟩ := (hnodes _ _).mp hget
      rw [hkey.eq_of_host_eq hkey' (hhost.trans hhost'.symm)]
      exact (Providers.gathers_of_collect? hcollect).1

/-- The data of a service depends on what is found at the keys that it
reads, and on nothing else in the providers. -/
theorem serviceData_congr {providers' : Providers}
    (h : ∀ key, t.Reads effective service key → ∀ name ∈ names,
      providers.resolve? key name = providers'.resolve? key name) :
    serviceData t providers service names
        (PluginName.sourceType service.plugin) effective
      = serviceData t providers' service names
          (PluginName.sourceType service.plugin) effective := by
  have hcollect : ∀ key, t.Reads effective service key →
      Providers.collect? providers names key
        = Providers.collect? providers' names key :=
    fun key hkey => Providers.collect?_congr (h key hkey)
  unfold serviceData
  cases hcluster : t.isCluster with
  | false =>
      simp only [reads_host_iff hcluster, forall_eq] at hcollect
      simp only [Bool.false_eq_true, if_false, hcollect]
  | true =>
      simp only [reads_node_iff hcluster] at hcollect
      have hfound := List.filterMap_congr fun key hkey =>
        congrArg (Option.map (key.host, ·)) (hcollect key hkey)
      unfold clusterData?
      simp only [if_true, hfound]

-- ==================================================== the main statement

/-- An age that counts is that of a section which is there, has a declared
name and is not superseded. -/
theorem section_of_agesRead {info : CacheInfo}
    (h : info ∈ t.agesRead providers effective service names) :
    ∃ key provider name entry, t.Reads effective service key
      ∧ providers.get? key = some provider
      ∧ provider.parsed.get? name = some entry
      ∧ entry.parsedName ∈ names ∧ entry.cacheInfo = some info
      ∧ ∀ superseder ∈ provider.catalog.supersedersOf name,
          provider.parsed.get? superseder = none := by
  obtain ⟨key, hkey, name, hname, r, hresolve, hinfo⟩ := h
  obtain ⟨provider, hprovider, hfound⟩ := Option.bind_eq_some_iff.mp hresolve
  obtain ⟨hparsed, hfree⟩ := SectionProvider.parsed_of_resolve hfound
  exact ⟨key, provider, r.name, _, hkey, hprovider, hparsed, hname, hinfo,
    SectionProvider.isSuperseded_eq_false_iff.mp hfree⟩

/-- There is data for a service exactly if a declared section is found at
some host key that it reads. The data then is all of what is found there
under the declared names and as old as that; and sections that are not
declared, or superseded, have no part in its age. -/
theorem serviceData_exact (t : Topology) (providers : Providers)
    (service : Service) (names : List ParsedName) (effective : EffectiveHost) :
    ((∃ data, serviceData t providers service names
          (PluginName.sourceType service.plugin) effective = .ok data)
        ↔ ∃ key, t.Reads effective service key
            ∧ ∃ name ∈ names, (providers.resolve? key name).isSome)
      ∧ (∀ data, serviceData t providers service names
            (PluginName.sourceType service.plugin) effective = .ok data →
          data.IsExact t providers effective service names)
      ∧ ∀ info ∈ t.agesRead providers effective service names,
          ∃ key provider name entry, t.Reads effective service key
            ∧ providers.get? key = some provider
            ∧ provider.parsed.get? name = some entry
            ∧ entry.parsedName ∈ names ∧ entry.cacheInfo = some info
            ∧ ∀ superseder ∈ provider.catalog.supersedersOf name,
                provider.parsed.get? superseder = none := by
  refine ⟨serviceData_isOk_iff, fun data h => ?_,
    fun info h => section_of_agesRead h⟩
  cases hcluster : t.isCluster with
  | false => exact isExact_of_host hcluster h
  | true => exact isExact_of_cluster hcluster h

end Topology

end HostWatch
