/-
A service sees its own sources and no others.

What the sources deliver reaches a service through four stages: each text is
cut into sections, the sections are grouped by host key, each group is parsed,
and the service resolves its sections at the keys that it reads. Seen from one
key the stages are a function of what was delivered under it (`heard`): the
bytes of the sources that did not fail and have some section, in order
(`resolve?_providers`). A key under which nothing was heard finds nothing,
whether it has a provider or not (`resolve?_makeProviders`).

So a service cannot tell apart two lists of fetched data that are heard alike
at all keys that it reads (`sameFor_of_heard`): they give it the same data,
and then the same check. Two ways to be heard alike are singled out. A source
that has no part in the service (`Topology.Apart`) may come or go, and the
sources of different keys may be mixed in any way.
-/
import HostWatch.Proofs.Agent.Grouping
import HostWatch.Proofs.Check.Containment
import HostWatch.Proofs.Check.ServiceData
import HostWatch.Run

namespace HostWatch

-- ==================================================== what is heard

/-- What a source has delivered under a host key, if it has the key, did not
fail and delivered some section. -/
def heardFrom? (key : HostKey) (fetched : Fetched) : Option ByteArray :=
  match fetched.2 with
  | .ok bytes =>
    if fetched.1.key = key
        ∧ (AgentOutput.parse (Text.ofBytes bytes)).isEmpty = false then
      some bytes
    else none
  | .error _ => none

/-- What the sources have delivered under a host key, in order. -/
def heard (key : HostKey) (fetched : List Fetched) : List ByteArray :=
  fetched.filterMap (heardFrom? key)

/-- The sections of what was heard. -/
def sectionsOf (delivered : List ByteArray) : HostSections :=
  .join (delivered.map fun bytes => AgentOutput.parse (Text.ofBytes bytes))

/-- A source that is heard under a key has delivered what is heard. -/
theorem heardFrom?_eq_some_iff {key : HostKey} {fetched : Fetched}
    {bytes : ByteArray} :
    heardFrom? key fetched = some bytes
      ↔ fetched.1.key = key ∧ fetched.2 = .ok bytes
        ∧ (AgentOutput.parse (Text.ofBytes bytes)).isEmpty = false := by
  obtain ⟨source, raw⟩ := fetched
  unfold heardFrom?
  cases raw with
  | error e => simp
  | ok delivered =>
      simp only [Option.ite_none_right_eq_some, Option.some.injEq,
        Except.ok.injEq]
      constructor
      · rintro ⟨⟨hkey, hempty⟩, rfl⟩
        exact ⟨hkey, rfl, hempty⟩
      · rintro ⟨hkey, rfl, hempty⟩
        exact ⟨⟨hkey, hempty⟩, rfl⟩

/-- A source that is heard under a key has that key. -/
theorem heardFrom?_eq_none_of_ne {key : HostKey} {fetched : Fetched}
    (h : fetched.1.key ≠ key) : heardFrom? key fetched = none := by
  rw [Option.eq_none_iff_forall_ne_some]
  exact fun bytes hbytes => h (heardFrom?_eq_some_iff.mp hbytes).1

-- ==================================================== what is grouped

/-- The sections that are grouped under a key are those of what was heard. -/
theorem getD_get?_groupParsed (fetched : List Fetched) (key : HostKey) :
    ((groupParsed (fetched.map parseFetched)).get? key).getD ∅
      = sectionsOf (heard key fetched) := by
  unfold groupParsed sectionsOf heard
  rw [getD_get?_groupByHost, ← HostSections.join_filter]
  congr 1
  induction fetched with
  | nil => rfl
  | cons f rest ih =>
      obtain ⟨source, raw⟩ := f
      cases raw with
      | error e => exact ih
      | ok bytes =>
          simp only [List.map_cons, List.filterMap_cons, parseFetched,
            heardFrom?, Except.map] at ih ⊢
          by_cases hkey : source.key = key
          · cases hempty : (AgentOutput.parse (Text.ofBytes bytes)).isEmpty with
            | true => simpa [hkey, hempty] using ih
            | false => simpa [hkey, hempty] using ih
          · simpa [hkey] using ih

-- ==================================================== what is found

/-- A key without a provider is as good as one whose provider has no
sections. -/
theorem resolve?_makeProviders (catalog : SectionCatalog)
    (grouped : SortedMap HostKey HostSections) (key : HostKey)
    (name : ParsedName) :
    (makeProviders catalog grouped).resolve? key name
      = (SectionProvider.ofSections key ((grouped.get? key).getD ∅)
          catalog).resolve name := by
  unfold Providers.resolve? makeProviders
  rw [SortedMap.get?_map]
  cases grouped.get? key with
  | some raw => rfl
  | none => rfl

/-- What is found at a key is found in the sections of what was heard under
it. -/
theorem resolve?_providers (engine : Engine) (fetched : List Fetched)
    (key : HostKey) (name : ParsedName) :
    (engine.providers (fetched.map parseFetched)).resolve? key name
      = (SectionProvider.ofSections key (sectionsOf (heard key fetched))
          engine.catalog).resolve name := by
  unfold Engine.providers
  rw [resolve?_makeProviders, getD_get?_groupParsed]

-- ==================================================== what is dropped

/-- A source has no part in a service: it failed, it delivered no section, it
is not of the kind that the plugin's name tells, or it is of a host from which
the service reads nothing. -/
inductive Topology.Apart (t : Topology) (effective : EffectiveHost)
    (service : Service) : Fetched → Prop
  | failed (source : Source) (e : FetchError) :
      Apart t effective service (source, .error e)
  | empty (source : Source) (bytes : ByteArray)
      (h : (AgentOutput.parse (Text.ofBytes bytes)).isEmpty = true) :
      Apart t effective service (source, .ok bytes)
  | otherKind (fetched : Fetched)
      (h : ¬ (fetched.1.sourceType = .management
        ↔ PluginName.isManagement service.plugin = true)) :
      Apart t effective service fetched
  | otherHost (fetched : Fetched)
      (h : ∀ key, t.Reads effective service key → key.host ≠ fetched.1.host) :
      Apart t effective service fetched

/-- A source that has no part in a service is not heard at any key that the
service reads. -/
theorem Topology.Apart.heardFrom?_eq_none {t : Topology}
    {effective : EffectiveHost} {service : Service} {fetched : Fetched}
    (h : t.Apart effective service fetched) {key : HostKey}
    (hkey : t.Reads effective service key) :
    heardFrom? key fetched = none := by
  cases h with
  | failed source e => rfl
  | empty source bytes hempty =>
      rw [Option.eq_none_iff_forall_ne_some]
      intro heard hheard
      obtain ⟨-, hbytes, hsome⟩ := heardFrom?_eq_some_iff.mp hheard
      cases hbytes
      rw [hempty] at hsome
      cases hsome
  | otherKind _ hkind =>
      refine heardFrom?_eq_none_of_ne fun heq => hkind ?_
      have hread := hkey.kind
      rw [← heq] at hread
      exact hread
  | otherHost _ hhost =>
      exact heardFrom?_eq_none_of_ne fun heq =>
        hhost key hkey (congrArg HostKey.host heq).symm

/-- What is heard under a key comes from the sources that have it. -/
theorem heard_filter (key : HostKey) (fetched : List Fetched) :
    heard key (fetched.filter (·.1.key = key)) = heard key fetched := by
  unfold heard
  rw [List.filterMap_filter]
  refine List.filterMap_congr fun f _ => ?_
  by_cases hkey : f.1.key = key
  · simp [hkey]
  · simp [hkey, heardFrom?_eq_none_of_ne hkey]

-- ==================================================== the main statement

namespace Engine

/-- Checks a service with its plugin, by what the sources have delivered. -/
def checkFetched (engine : Engine) (t : Topology) (service : Service)
    (plugin : CheckPlugin) (fetched : List Fetched) (state : CheckState) :
    Except Abort ServiceOutcome × CheckState :=
  t.checkService
    (engine.checkEnvironment (engine.providers (fetched.map parseFetched))
      fetched)
    service plugin state

/-- A service cannot tell what was fetched in two cases: where it remembers
the same, it comes to the same answer, the identity of a crash report apart,
and remembers the same after it. -/
def SameFor (engine : Engine) (t : Topology) (service : Service)
    (plugin : CheckPlugin) (fetched fetched' : List Fetched) : Prop :=
  ∀ state state' : CheckState,
    ValueStore.AgreeFor t.host service.id state.store state'.store →
    ServiceOutcome.SameAnswer
        (engine.checkFetched t service plugin fetched state).1
        (engine.checkFetched t service plugin fetched' state').1
      ∧ ValueStore.AgreeFor t.host service.id
          (engine.checkFetched t service plugin fetched state).2.store
          (engine.checkFetched t service plugin fetched' state').2.store

variable {engine : Engine} {t : Topology} {service : Service}
    {plugin : CheckPlugin}

/-- A service cannot tell apart what is heard alike at all keys that it
reads. -/
theorem sameFor_of_heard {fetched fetched' : List Fetched}
    (h : ∀ key, t.Reads engine.effectiveHost service key →
      heard key fetched = heard key fetched') :
    engine.SameFor t service plugin fetched fetched' := by
  intro state state' hagree
  have hdata : t.dataFor
        (engine.checkEnvironment
          (engine.providers (fetched.map parseFetched)) fetched)
        service plugin
      = t.dataFor
          (engine.checkEnvironment
            (engine.providers (fetched'.map parseFetched)) fetched')
          service plugin := by
    refine Topology.serviceData_congr fun key hkey name _ => ?_
    show (engine.providers _).resolve? key name
      = (engine.providers _).resolve? key name
    rw [resolve?_providers, resolve?_providers, h key hkey]
  exact ⟨Topology.checkService_sameAnswer hdata hagree,
    Topology.checkService_agree hdata hagree⟩

/-- A service sees its own sources and no others. It cannot tell apart what is
heard alike at all keys that it reads; so it does not matter to it whether a
source is there that has no part in it, nor how the sources of different keys
are mixed. -/
theorem own_sources_only (engine : Engine) (t : Topology) (service : Service)
    (plugin : CheckPlugin) :
    (∀ fetched fetched' : List Fetched,
        (∀ key, t.Reads engine.effectiveHost service key →
          heard key fetched = heard key fetched') →
        engine.SameFor t service plugin fetched fetched')
      ∧ (∀ before source after,
          t.Apart engine.effectiveHost service source →
          engine.SameFor t service plugin (before ++ source :: after)
            (before ++ after))
      ∧ ∀ fetched fetched' : List Fetched,
          (∀ key, fetched.filter (·.1.key = key)
            = fetched'.filter (·.1.key = key)) →
          engine.SameFor t service plugin fetched fetched' := by
  refine ⟨fun _ _ => sameFor_of_heard, fun before source after happart => ?_,
    fun fetched fetched' hmixed => ?_⟩
  · refine sameFor_of_heard fun key hkey => ?_
    unfold heard
    rw [List.filterMap_append, List.filterMap_append,
      List.filterMap_cons_none (happart.heardFrom?_eq_none hkey)]
  · refine sameFor_of_heard fun key _ => ?_
    rw [← heard_filter, hmixed key, heard_filter]

/-- An engine for the cluster of two nodes, with one plugin. -/
def pairEngine : Engine where
  catalog := .empty
  checks := .ofList [CheckPlan.rememberingPlugin]
  inventory := ∅
  inventoryParameters := fun _ _ => default
  periods := fun _ => true
  effectiveHost := fun node _ => node
  clusterMode := fun _ _ => .worst
  crashId := CrashReport.idOfNumber
  time := "2024-01-01T00:00:00Z"

/-- The management board of a node delivers the very section that a service
reads from the node's agent, and the service does not notice. -/
theorem own_sources_only_management_board :
    let agent : Fetched := (.agent "alpha", .ok "<<<load>>>\n1\n".toUTF8)
    let board : Fetched :=
      (.managementBoard "alpha", .ok "<<<load>>>\n9\n".toUTF8)
    pairTopology.Apart pairEngine.effectiveHost loadService board
      ∧ pairEngine.SameFor pairTopology loadService CheckPlan.rememberingPlugin
          [board, agent] [agent] := by
  intro agent board
  have hkind : ¬ (board.1.sourceType = .management
      ↔ PluginName.isManagement loadService.plugin = true) := by
    decide +kernel
  have happart : pairTopology.Apart pairEngine.effectiveHost loadService board :=
    .otherKind board hkind
  exact ⟨happart, (own_sources_only pairEngine pairTopology loadService
    CheckPlan.rememberingPlugin).2.1 [] board [agent] happart⟩

end Engine

end HostWatch
