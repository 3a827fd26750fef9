/-
What is said about plugins without data names each of them once.

The plugins of all services without data are collected first, each once and
in order (`mem_missingPlugins`); such a plugin may have services with data as
well. Then each of them goes one of two ways, and its name alone tells which:
the first exception in the order of the configuration that is well formed and
matches the name decides, and a name to which none applies is generic
(`specificState?_eq_some_iff`, `specificState?_eq_none_iff`). Which patterns
are well formed, and what they match, is up to the language of patterns; nothing
is asked of it.

The services are looked at for the name of their plugin and for whether there
was data, and only to see which pairs of these occur
(`ofMissingData_of_mem_seen`).
-/
import HostWatch.HostReport
import HostWatch.Pattern.Reader
import HostWatch.Proofs.SortedMap
import Mathlib.Data.List.Nodup

namespace HostWatch.HostReport

variable {plugin : PluginName} {outcomes outcomes' : List ServiceOutcome}

-- ==================================================== missing plugins

/-- A plugin lacks data: one of its services has none. -/
def Lacks (outcomes : List ServiceOutcome) (plugin : PluginName) : Prop :=
  ∃ outcome ∈ outcomes, outcome.service.plugin = plugin
    ∧ outcome.dataReceived = false

/-- What is looked at in a service: the name of its plugin, and whether there
was data for it. -/
def seen (outcome : ServiceOutcome) : PluginName × Bool :=
  (outcome.service.plugin, outcome.dataReceived)

theorem mem_missingPlugins :
    plugin ∈ missingPlugins outcomes ↔ Lacks outcomes plugin := by
  unfold missingPlugins Lacks
  rw [SortedMap.mem_keys_ofList, List.map_map, List.mem_map]
  simp only [List.mem_filter, Bool.not_eq_true', Function.comp, and_assoc]
  exact exists_congr fun outcome => by tauto

/-- A plugin lacks data if the pair of its name and of no data is seen. -/
theorem lacks_iff_seen :
    Lacks outcomes plugin ↔ (plugin, false) ∈ outcomes.map seen := by
  unfold Lacks seen
  simp

theorem missingPlugins_sorted :
    (missingPlugins outcomes).Pairwise fun a b => compare a b = .lt :=
  SortedMap.keys_sorted _

section

variable [PatternLanguage] {spec : ExitSpec} {state : State}

-- ==================================================== exceptions

/-- An exception applies to a plugin: its pattern is well formed, and matches
the name. -/
def Applies (text : String) (plugin : PluginName) : Prop :=
  ∃ isMatch, specificPattern? text = some isMatch ∧ isMatch plugin = true

/-- Of the exceptions that apply to a plugin, the first one that is configured
has a state. -/
def FirstApplies (spec : ExitSpec) (plugin : PluginName) (state : State) :
    Prop :=
  ∃ before text after, spec.specificMissing = before ++ (text, state) :: after
    ∧ Applies text plugin ∧ ∀ earlier ∈ before, ¬ Applies earlier.1 plugin

/-- No exception applies to a plugin. -/
def IsGeneric (spec : ExitSpec) (plugin : PluginName) : Prop :=
  ∀ entry ∈ spec.specificMissing, ¬ Applies entry.1 plugin

private theorem any_isMatch_iff {text : String} :
    (specificPattern? text).any (· plugin) = true ↔ Applies text plugin := by
  unfold Applies
  rw [Option.any_eq_true]

/-- The exceptions can be searched without compiling them all first. -/
private theorem specificState?_eq :
    specificState? (specificPatterns spec) plugin
      = (spec.specificMissing.find? fun entry =>
        (specificPattern? entry.1).any (· plugin)).map (·.2) := by
  unfold specificState? specificPatterns
  rw [List.find?_filterMap]
  simp only [Option.any_map]
  cases hfind : spec.specificMissing.find? _ with
  | none => rfl
  | some entry =>
      -- an exception that is found has a pattern
      have happlies : (specificPattern? entry.1).any (· plugin) = true := by
        simpa using List.find?_some hfind
      obtain ⟨isMatch, hpattern, -⟩ := any_isMatch_iff.mp happlies
      simp only [Option.bind_some, hpattern]
      rfl

/-- A plugin has the state of the first exception that applies to it. -/
theorem specificState?_eq_some_iff :
    specificState? (specificPatterns spec) plugin = some state
      ↔ FirstApplies spec plugin state := by
  rw [specificState?_eq, Option.map_eq_some_iff]
  simp only [List.find?_eq_some_iff_append, any_isMatch_iff,
    Bool.not_eq_true', Bool.eq_false_iff, ne_eq]
  constructor
  · rintro ⟨⟨text, _⟩, ⟨happlies, before, after, hsplit, hbefore⟩, rfl⟩
    exact ⟨before, text, after, hsplit, happlies, hbefore⟩
  · rintro ⟨before, text, after, hsplit, happlies, hbefore⟩
    exact ⟨(text, state), ⟨happlies, before, after, hsplit, hbefore⟩, rfl⟩

/-- A plugin has no state of its own if no exception applies to it. -/
theorem specificState?_eq_none_iff :
    specificState? (specificPatterns spec) plugin = none
      ↔ IsGeneric spec plugin := by
  rw [specificState?_eq, Option.map_eq_none_iff, List.find?_eq_none]
  simp only [any_isMatch_iff]
  exact Iff.rfl

-- ==================================================== the division

/-- The missing plugins to which no exception applies. -/
def genericPlugins (spec : ExitSpec) (outcomes : List ServiceOutcome) :
    List PluginName :=
  (missingPlugins outcomes).filter fun plugin =>
    (specificState? (specificPatterns spec) plugin).isNone

/-- The other missing plugins, each with the state of its exception. -/
def specificPlugins (spec : ExitSpec) (outcomes : List ServiceOutcome) :
    List (PluginName × State) :=
  (missingPlugins outcomes).filterMap fun plugin =>
    (specificState? (specificPatterns spec) plugin).map (plugin, ·)

/-- Two lists of plugins, those of the second one with a state, among which
the plugins without data are divided: each of them occurs exactly once, in the
first list if no exception applies to it and else in the second one, with the
state of the first exception that does; and both lists are in order. -/
structure Divides (spec : ExitSpec) (outcomes : List ServiceOutcome)
    (generic : List PluginName) (specific : List (PluginName × State)) :
    Prop where
  mem_generic : ∀ plugin, plugin ∈ generic
    ↔ Lacks outcomes plugin ∧ IsGeneric spec plugin
  mem_specific : ∀ plugin state, (plugin, state) ∈ specific
    ↔ Lacks outcomes plugin ∧ FirstApplies spec plugin state
  once : (generic ++ specific.map (·.1)).Nodup
  all : ∀ plugin, plugin ∈ generic ++ specific.map (·.1)
    ↔ Lacks outcomes plugin
  generic_sorted : generic.Pairwise fun a b => compare a b = .lt
  specific_sorted : specific.Pairwise fun a b => compare a.1 b.1 = .lt

theorem mem_genericPlugins :
    plugin ∈ genericPlugins spec outcomes
      ↔ Lacks outcomes plugin ∧ IsGeneric spec plugin := by
  unfold genericPlugins
  rw [List.mem_filter, mem_missingPlugins, Option.isNone_iff_eq_none,
    specificState?_eq_none_iff]

theorem mem_specificPlugins :
    (plugin, state) ∈ specificPlugins spec outcomes
      ↔ Lacks outcomes plugin ∧ FirstApplies spec plugin state := by
  unfold specificPlugins
  rw [List.mem_filterMap, ← mem_missingPlugins, ← specificState?_eq_some_iff]
  constructor
  · rintro ⟨other, hmem, hstate⟩
    obtain ⟨_, hstate, heq⟩ := Option.map_eq_some_iff.mp hstate
    cases heq
    exact ⟨hmem, hstate⟩
  · rintro ⟨hmem, hstate⟩
    exact ⟨plugin, hmem, Option.map_eq_some_iff.mpr ⟨state, hstate, rfl⟩⟩

/-- The plugins without data are divided into the generic and the specific
ones. -/
theorem divides (spec : ExitSpec) (outcomes : List ServiceOutcome) :
    Divides spec outcomes (genericPlugins spec outcomes)
      (specificPlugins spec outcomes) := by
  have hgeneric : (genericPlugins spec outcomes).Pairwise
      fun a b => compare a b = .lt := missingPlugins_sorted.filter _
  have hspecific : (specificPlugins spec outcomes).Pairwise
      fun a b => compare a.1 b.1 = .lt := by
    unfold specificPlugins
    rw [List.pairwise_filterMap]
    refine missingPlugins_sorted.imp fun {a b} hlt => ?_
    intro x hx y hy
    obtain ⟨_, -, rfl⟩ := Option.map_eq_some_iff.mp hx
    obtain ⟨_, -, rfl⟩ := Option.map_eq_some_iff.mp hy
    exact hlt
  have hnames : ∀ plugin, plugin ∈ (specificPlugins spec outcomes).map (·.1)
      ↔ Lacks outcomes plugin ∧ ∃ state, FirstApplies spec plugin state := by
    intro plugin
    rw [List.mem_map]
    constructor
    · rintro ⟨⟨_, state⟩, hmem, rfl⟩
      obtain ⟨hlacks, hfirst⟩ := mem_specificPlugins.mp hmem
      exact ⟨hlacks, state, hfirst⟩
    · rintro ⟨hlacks, state, hfirst⟩
      exact ⟨_, mem_specificPlugins.mpr ⟨hlacks, hfirst⟩, rfl⟩
  refine ⟨fun _ => mem_genericPlugins, fun _ _ => mem_specificPlugins, ?_, ?_,
    hgeneric, hspecific⟩
  · refine List.nodup_append.mpr ⟨SortedMap.nodup_of_sorted hgeneric,
      SortedMap.nodup_of_sorted (List.pairwise_map.mpr hspecific), ?_⟩
    rintro a ha _ hb rfl
    obtain ⟨-, hnone⟩ := mem_genericPlugins.mp ha
    obtain ⟨-, state, hsome⟩ := (hnames a).mp hb
    rw [← specificState?_eq_none_iff,
      specificState?_eq_some_iff.mpr hsome] at hnone
    cases hnone
  · intro plugin
    rw [List.mem_append, mem_genericPlugins, hnames, ← and_or_left,
      and_iff_left_iff_imp]
    intro _
    -- no exception applies to a plugin, or one of them is the first
    simp only [← specificState?_eq_none_iff, ← specificState?_eq_some_iff]
    cases specificState? (specificPatterns spec) plugin with
    | none => exact .inl rfl
    | some state => exact .inr ⟨state, rfl⟩

-- ==================================================== the report

/-- What is said about missing data, in terms of the two lists. -/
theorem ofMissingData_of_some (hsome : ∃ o ∈ outcomes, o.dataReceived = true)
    (hlacks : ∃ o ∈ outcomes, o.dataReceived = false) :
    ofMissingData spec outcomes
      = (if genericPlugins spec outcomes = [] then []
          else [{ state := spec.missingSections
                  summary := "Missing monitoring data for plugins: "
                    ++ ", ".intercalate (genericPlugins spec outcomes) }])
        ++ (specificPlugins spec outcomes).map fun entry =>
          { state := entry.2, summary := entry.1 } := by
  have hall : outcomes.all (·.dataReceived) = false := by
    rw [List.all_eq_false]
    obtain ⟨o, ho, hnone⟩ := hlacks
    exact ⟨o, ho, by rw [hnone]; decide⟩
  have hany : outcomes.any (·.dataReceived) = true := by
    rw [List.any_eq_true]
    exact hsome
  unfold ofMissingData genericPlugins specificPlugins
  rw [hall, hany, List.map_filterMap]
  simp only [Bool.not_true, Bool.false_eq_true, if_false, List.isEmpty_iff,
    Option.map_map]
  rfl

/-- What is said about missing data depends on which pairs are seen, and not
on their order or number. -/
theorem ofMissingData_of_mem_seen
    (h : ∀ pair, pair ∈ outcomes.map seen ↔ pair ∈ outcomes'.map seen) :
    ofMissingData spec outcomes = ofMissingData spec outcomes' := by
  have hall : outcomes.all (·.dataReceived)
      = outcomes'.all (·.dataReceived) := by
    have hseen : ∀ l : List ServiceOutcome,
        l.all (·.dataReceived) = (l.map seen).all (·.2) := by
      intro l
      rw [List.all_map]
      rfl
    rw [hseen, hseen, Bool.eq_iff_iff, List.all_eq_true, List.all_eq_true]
    simp only [h]
  have hany : outcomes.any (·.dataReceived)
      = outcomes'.any (·.dataReceived) := by
    have hseen : ∀ l : List ServiceOutcome,
        l.any (·.dataReceived) = (l.map seen).any (·.2) := by
      intro l
      rw [List.any_map]
      rfl
    rw [hseen, hseen, Bool.eq_iff_iff, List.any_eq_true, List.any_eq_true]
    simp only [h]
  have hmissing : missingPlugins outcomes = missingPlugins outcomes' := by
    unfold missingPlugins
    refine SortedMap.keys_eq_iff.mpr fun plugin => ?_
    have hplugin := h (plugin, false)
    rw [← lacks_iff_seen, ← lacks_iff_seen, ← mem_missingPlugins,
      ← mem_missingPlugins] at hplugin
    exact hplugin
  unfold ofMissingData
  rw [hall, hany, hmissing]

-- ==================================================== the main statement

/-- What is said about missing data, for all states for missing data and all
results of services. Nothing is said if every service has data, and one thing
if none of several has. Otherwise the plugins without data are divided: one
entry names those to which no exception applies, if there are any, in order;
and behind it each of the others has an entry of its own, in order, with the
state of the first exception that applies to it. All this depends on which
pairs of a plugin and whether there is data occur, and on nothing else. -/
theorem missing_data_divided (spec : ExitSpec)
    (outcomes : List ServiceOutcome) :
    ((∀ o ∈ outcomes, o.dataReceived = true) →
        ofMissingData spec outcomes = [])
      ∧ (outcomes ≠ [] → (∀ o ∈ outcomes, o.dataReceived = false) →
        ofMissingData spec outcomes
          = [{ state := spec.missingSections
               summary := "Missing monitoring data for all plugins" }])
      ∧ ((∃ o ∈ outcomes, o.dataReceived = true) →
        (∃ o ∈ outcomes, o.dataReceived = false) →
        ∃ generic specific, Divides spec outcomes generic specific
          ∧ ofMissingData spec outcomes
            = (if generic = [] then []
                else [{ state := spec.missingSections
                        summary := "Missing monitoring data for plugins: "
                          ++ ", ".intercalate generic }])
              ++ specific.map fun entry =>
                { state := entry.2, summary := entry.1 })
      ∧ ∀ outcomes', (∀ pair, pair ∈ outcomes.map seen
          ↔ pair ∈ outcomes'.map seen) →
        ofMissingData spec outcomes = ofMissingData spec outcomes' := by
  refine ⟨?_, ?_, ?_, fun outcomes' => ofMissingData_of_mem_seen⟩
  · intro hall
    unfold ofMissingData
    rw [if_pos (List.all_eq_true.mpr hall)]
  · intro hne hnone
    obtain ⟨o, ho⟩ := List.exists_mem_of_ne_nil _ hne
    have hall : ¬ outcomes.all (·.dataReceived) = true := by
      intro hall
      have hreceived := List.all_eq_true.mp hall o ho
      rw [hnone o ho] at hreceived
      cases hreceived
    have hany : (!outcomes.any (·.dataReceived)) = true := by
      rw [Bool.not_eq_true', List.any_eq_false]
      intro o ho
      rw [hnone o ho]
      decide
    unfold ofMissingData
    rw [if_neg hall, if_pos hany]
  · intro hsome hlacks
    exact ⟨genericPlugins spec outcomes, specificPlugins spec outcomes,
      divides spec outcomes, ofMissingData_of_some hsome hlacks⟩

end

/-- Exceptions of which the first one is malformed and the other two apply to
the same plugins. -/
def diskSpec : ExitSpec where
  specificMissing := [("[", .crit), ("df", .ok), ("d", .unknown)]

/-- A plugin with and without data, and two without any. -/
def patchyOutcomes : List ServiceOutcome :=
  [ .notImplemented { plugin := "df", description := "Disk /" },
    .noData { plugin := "mem", description := "Memory" } .receivedNoData,
    .noData { plugin := "df", description := "Disk /home" } .receivedNoData,
    .noData { plugin := "cpu", description := "CPU" } .receivedNoData ]

/-- The exception for `df` applies although some disk has data, and a malformed
exception in front of it does not count. -/
theorem missing_data_divided_patchy :
    (∃ o ∈ patchyOutcomes, o.dataReceived = true)
      ∧ (∃ o ∈ patchyOutcomes, o.dataReceived = false)
      ∧ ∃ generic specific, Divides diskSpec patchyOutcomes generic specific
        ∧ ("df", .ok) ∈ specific ∧ "df" ∉ generic
        ∧ (ofMissingData diskSpec patchyOutcomes).length = 2 := by
  have hsome : ∃ o ∈ patchyOutcomes, o.dataReceived = true :=
    ⟨_, .head _, rfl⟩
  have hlacks : ∃ o ∈ patchyOutcomes, o.dataReceived = false :=
    ⟨_, .tail _ (.head _), rfl⟩
  obtain ⟨generic, specific, hdivides, -⟩ :=
    (missing_data_divided diskSpec patchyOutcomes).2.2.1 hsome hlacks
  have hstate : specificState? (specificPatterns diskSpec) "df" = some .ok := by
    decide +kernel
  have hfirst := specificState?_eq_some_iff.mp hstate
  have hdf : Lacks patchyOutcomes "df" :=
    ⟨_, .tail _ (.tail _ (.head _)), rfl, rfl⟩
  refine ⟨hsome, hlacks, generic, specific, hdivides,
    (hdivides.mem_specific _ _).mpr ⟨hdf, hfirst⟩, ?_, by decide +kernel⟩
  intro hgeneric
  have hnone := ((hdivides.mem_generic _).mp hgeneric).2
  rw [← specificState?_eq_none_iff, hstate] at hnone
  cases hnone

end HostWatch.HostReport
