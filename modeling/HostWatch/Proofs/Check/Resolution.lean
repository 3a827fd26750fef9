/-
Where the data of a service comes from.

A service reads the host keys `keysRead`: that of its host, or those of
the nodes that own it, always for the one kind of source that its plugin's
name tells. Whether there is data for it is a matter of `resolve?` at
these keys and the declared sections alone (`dataFor_error_iff`);
order, repetition and what else the providers hold do not enter.

A node is part of a cluster's data only if some declared section has a
value there (`hasContent_of_dataFor`), so the later test for nodes
with data, made before each call, never skips one.
-/
import HostWatch.Check.Invoke
import HostWatch.Proofs.SortedMap

namespace HostWatch

/-- The section that checks get under a host key and a name. -/
def Providers.resolve? (providers : Providers) (key : HostKey)
    (name : ParsedName) :
    Option ResolvedSection :=
  (providers.get? key).bind fun provider => provider.resolve name

/-- The host keys that a service reads. -/
def Topology.keysRead (t : Topology) (env : CheckEnvironment)
    (service : Service) :
    List HostKey :=
  let sourceType := PluginName.sourceType service.plugin
  if t.isCluster then
    (t.owningNodes service.description env.effectiveHost).map (⟨·, sourceType⟩)
  else [⟨t.host, sourceType⟩]

/-- The data that a service's plugin is called with, or the result of a
service without data. -/
def Topology.dataFor (t : Topology) (env : CheckEnvironment) (service : Service)
    (plugin : CheckPlugin) : Except ServiceResult ServiceData :=
  serviceData t env.providers service plugin.sections
    (PluginName.sourceType service.plugin)
    env.effectiveHost

-- ==================================================== one host key

/-- What is collected under a host key, said with what resolves there: a key
without a provider is as good as one at which nothing resolves. -/
theorem Providers.collect?_eq (providers : Providers) (names : List ParsedName)
    (key : HostKey) :
    Providers.collect? providers names key =
      let found := names.map fun name => (name, providers.resolve? key name)
      if found.all fun (_, resolved) => resolved.isNone then none
      else some
        (.ofList (found.map fun (name, resolved) =>
            (name, resolved.map (·.data))),
          found.filterMap fun (_, resolved) => resolved.bind (·.cacheInfo)) := by
  unfold Providers.collect? Providers.resolve?
  cases SortedMap.get? providers key with
  | none => simp
  | some provider => rfl

/-- There is nothing under a host key exactly if no declared section
resolves there. -/
theorem Providers.collect?_eq_none_iff (providers : Providers)
    (names : List ParsedName) (key : HostKey) :
    Providers.collect? providers names key = none
      ↔ ∀ name ∈ names, providers.resolve? key name = none := by
  rw [Providers.collect?_eq]
  simp only [List.all_map, List.all_eq_true, Function.comp,
    Option.isNone_iff_eq_none]
  split
  case isTrue h => exact ⟨fun _ => h, fun _ => rfl⟩
  case isFalse h =>
    exact ⟨fun hnone => (by cases hnone), fun hall => absurd hall h⟩

/-- What is collected under a host key holds every declared section, with
its value if it has one, and the ages of those that have one. -/
theorem Providers.get?_of_collect? {providers : Providers}
    {names : List ParsedName} {key : HostKey} {data : SectionData}
    {infos : List CacheInfo}
    (h : Providers.collect? providers names key = some (data, infos)) :
    (∀ name, data.get? name = if name ∈ names then
        some ((providers.resolve? key name).map (·.data)) else none)
      ∧ infos = names.filterMap fun name =>
          (providers.resolve? key name).bind (·.cacheInfo) := by
  rw [Providers.collect?_eq] at h
  simp only [List.map_map, List.filterMap_map] at h
  split at h
  case isTrue => cases h
  case isFalse =>
    injection h with h
    injection h with hdata hinfos
    subst hdata hinfos
    exact ⟨SortedMap.get?_ofList_map _ names, rfl⟩

/-- What is collected under a host key has a value for some section. -/
theorem hasContent_of_collect? {providers : Providers} {names : List ParsedName}
    {key : HostKey} {data : SectionData} {infos : List CacheInfo}
    (h : Providers.collect? providers names key = some (data, infos)) :
    data.hasContent = true := by
  have hsome : ¬ ∀ name ∈ names, providers.resolve? key name = none :=
    fun hnone => by
      rw [(providers.collect?_eq_none_iff names key).mpr hnone] at h
      cases h
  have ⟨name, hname⟩ := Classical.not_forall.mp hsome
  obtain ⟨hmem, hres⟩ := Classical.not_imp.mp hname
  obtain ⟨resolved, hres⟩ := Option.ne_none_iff_exists'.mp hres
  have hget := (Providers.get?_of_collect? h).1 name
  rw [if_pos hmem, hres, Option.map_some] at hget
  exact List.any_eq_true.mpr
    ⟨some resolved.data, SortedMap.mem_values.mpr ⟨name, hget⟩, rfl⟩

-- ==================================================== a service

/-- No node has data exactly if nothing is collected under any of the keys. -/
theorem clusterData?_eq_none_iff (providers : Providers)
    (names : List ParsedName) (keys : List HostKey) :
    clusterData? providers names keys = none
      ↔ ∀ key ∈ keys, Providers.collect? providers names key = none := by
  have hfound : (keys.filterMap fun key =>
      (Providers.collect? providers names key).map (key.host, ·)) = []
        ↔ ∀ key ∈ keys, Providers.collect? providers names key = none := by
    simp
  rw [← hfound]
  unfold clusterData?
  simp only [List.isEmpty_iff]
  split
  case isTrue h => exact ⟨fun _ => h, fun _ => rfl⟩
  case isFalse h =>
    exact ⟨fun hnone => (by cases hnone), fun hnil => absurd hnil h⟩

/-- A service is without data exactly if no section that its plugin
declares resolves at any host key that it reads. -/
theorem Topology.dataFor_error_iff (t : Topology) (env : CheckEnvironment)
    (service : Service) (plugin : CheckPlugin) :
    (∃ result, t.dataFor env service plugin = .error result)
      ↔ ∀ key ∈ t.keysRead env service, ∀ name ∈ plugin.sections,
          env.providers.resolve? key name = none := by
  unfold Topology.dataFor serviceData Topology.keysRead
  simp only [← Providers.collect?_eq_none_iff]
  split
  case isTrue =>
    rw [← clusterData?_eq_none_iff]
    split
    case h_1 data h => simp [h]
    case h_2 h => simp [h]
  case isFalse =>
    split
    case h_1 sections infos h => simp [h]
    case h_2 h => simp [h]

/-- Every node in the data of a service of a cluster has a value for
some section. -/
theorem Topology.hasContent_of_dataFor {t : Topology} {env : CheckEnvironment}
    {service : Service} {plugin : CheckPlugin}
    {nodes : SortedMap HostName SectionData} {info : Option CacheInfo}
    (h : t.dataFor env service plugin = .ok ⟨.cluster nodes, info⟩) :
    ∀ e ∈ nodes.entries, e.2.hasContent = true := by
  rintro ⟨node, sections⟩ he
  rw [SortedMap.mem_entries_iff] at he
  unfold Topology.dataFor serviceData at h
  split at h
  case isFalse => split at h <;> cases h
  case isTrue =>
    simp only at h
    split at h
    case h_2 => cases h
    case h_1 data hdata =>
      injection h with h
      subst h
      unfold clusterData? at hdata
      simp only at hdata
      split at hdata
      case isTrue => cases hdata
      case isFalse =>
        injection hdata with hdata
        injection hdata with hsections _
        injection hsections with hnodes
        subst hnodes
        obtain ⟨⟨host, data, infos⟩, hfound, heq⟩ :=
          List.mem_map.mp (SortedMap.mem_of_get?_ofList he)
        obtain ⟨key, -, hkey⟩ := List.mem_filterMap.mp hfound
        obtain ⟨found, hcollect, hpair⟩ := Option.map_eq_some_iff.mp hkey
        simp only [Prod.mk.injEq] at heq hpair
        obtain ⟨-, rfl⟩ := heq
        obtain ⟨-, rfl⟩ := hpair
        exact hasContent_of_collect? hcollect

/-- A service of a cluster is without data, or it has the data of some
nodes. -/
theorem Topology.dataFor_of_isCluster {t : Topology} (env : CheckEnvironment)
    (service : Service) (plugin : CheckPlugin) (hcluster : t.isCluster = true) :
    t.dataFor env service plugin = .error
        (.clusterReceivedNoData
          (t.owningNodes service.description env.effectiveHost))
      ∨ ∃ nodes info, t.dataFor env service plugin = .ok ⟨.cluster nodes, info⟩
          ∧ nodes.entries ≠ [] := by
  unfold Topology.dataFor serviceData
  rw [if_pos hcluster]
  simp only
  split
  case h_2 => exact Or.inl rfl
  case h_1 data hdata =>
    unfold clusterData? at hdata
    simp only at hdata
    split at hdata
    case isTrue => cases hdata
    case isFalse hne =>
      injection hdata with hdata
      subst hdata
      refine Or.inr ⟨_, _, rfl, ?_⟩
      obtain ⟨e, l, hfound⟩ := List.exists_cons_of_ne_nil
        (fun hnil => hne (List.isEmpty_iff.mpr hnil))
      rw [hfound, List.map_cons]
      exact SortedMap.entries_ofList_ne_nil

-- ==================================================== a small cluster

/-- Two nodes that have each delivered the section `load`. -/
def pairProviders : Providers :=
  makeProviders .empty (.ofList [
    (⟨"alpha", .host⟩, (∅ : HostSections).addSection "load" [["1"]] none),
    (⟨"beta", .host⟩, (∅ : HostSections).addSection "load" [["2"]] none)])

/-- The cluster of the two nodes. -/
def pairTopology : Topology :=
  { host := "pair", isCluster := true, nodes := ["alpha", "beta"] }

/-- A service of the cluster. -/
def loadService : Service := { plugin := "load", description := "Load" }

/-- Checks of the cluster in one mode, at a time at which only the
period `night` is not active. -/
def pairEnvironment (mode : ClusterMode) : CheckEnvironment where
  providers := pairProviders
  periods := fun period => period != "night"
  effectiveHost := fun node _ => node
  clusterMode := fun _ _ => mode
  crashId := CrashReport.idOfNumber
  time := "2024-01-01T00:00:00Z"

end HostWatch
