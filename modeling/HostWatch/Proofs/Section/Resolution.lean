/-
Exactly what checks get under a name, and what they are told went wrong.

A section counts under a name (`Counts`) if it has that name and a value, and
no section with a value supersedes it. That is said of the catalog and the
raw sections alone, and nothing else decides: the entries of a provider are
searched in the order of their names, so what is found is the least section
that counts (`resolve_eq_some_iff`).

A section that is there but has no value is not among the entries of a
provider, whatever it supersedes. For what is found it may as well be absent
(`parsed_without`); if its plugin failed or broke off, that is remembered
among the errors, and only there.
-/
import HostWatch.Proofs.Section.Provider

namespace HostWatch

-- ==================================================== what counts

namespace SectionCatalog

/-- The section `name` counts under a name: it has that name and a value, and
no declared plugin that supersedes it has a section with a value. -/
structure Counts (catalog : SectionCatalog) (raw : HostSections)
    (parsedName : ParsedName) (name : SectionName) : Prop where
  parsedName_eq : catalog.parsedName name = parsedName
  value : catalog.HasValue raw name
  free : ∀ superseder plugin, catalog.get? superseder = some plugin →
    name ∈ plugin.supersedes → ¬ catalog.HasValue raw superseder

/-- The section `name` is there, but its plugin fails on its rows or breaks
off, and says why. -/
def Fails (catalog : SectionCatalog) (raw : HostSections)
    (name : SectionName) (message : String) : Prop :=
  ∃ rows, raw.sections.get? name = some rows
    ∧ ((catalog.pluginFor name).parse rows = .failed message
      ∨ (catalog.pluginFor name).parse rows = .crashed message)

end SectionCatalog

/-- The sections without the one under a name. -/
def HostSections.without (raw : HostSections) (name : SectionName) :
    HostSections :=
  { raw with sections := raw.sections.erase name }

namespace SectionProvider

variable {key : HostKey} {raw : HostSections} {catalog : SectionCatalog}
    {parsedName : ParsedName} {name : SectionName}

/-- A section counts against no other one exactly if none of those that
supersede it has a value. -/
theorem isSuperseded_ofSections :
    (ofSections key raw catalog).isSuperseded name = false
      ↔ ∀ superseder plugin, catalog.get? superseder = some plugin →
        name ∈ plugin.supersedes → ¬ catalog.HasValue raw superseder := by
  rw [isSuperseded_eq_false_iff]
  constructor
  · intro h superseder plugin hplugin hmem hvalue
    have hnone := h superseder
      (SectionCatalog.mem_supersedersOf.mpr ⟨plugin, hplugin, hmem⟩)
    have hparsed : ((ofSections key raw catalog).parsed.get?
        superseder).isSome := get?_parsed_isSome.mpr hvalue
    rw [hnone] at hparsed
    cases hparsed
  · intro h superseder hsuperseder
    obtain ⟨plugin, hplugin, hmem⟩ :=
      SectionCatalog.mem_supersedersOf.mp hsuperseder
    rw [← Option.not_isSome_iff_eq_none, get?_parsed_isSome]
    exact h superseder plugin hplugin hmem

/-- The sections that count are the entries that are looked for. -/
theorem counts_iff (key : HostKey) :
    catalog.Counts raw parsedName name
      ↔ ∃ entry, (ofSections key raw catalog).parsed.get? name = some entry
        ∧ entry.parsedName = parsedName
        ∧ (ofSections key raw catalog).isSuperseded name = false := by
  constructor
  · rintro ⟨hname, ⟨v, hv⟩, hfree⟩
    exact ⟨_, get?_parsed.mpr ⟨v, hv, rfl⟩, hname,
      isSuperseded_ofSections.mpr hfree⟩
  · rintro ⟨entry, hentry, hname, hfree⟩
    obtain ⟨v, hv, rfl⟩ := get?_parsed.mp hentry
    exact ⟨hname, ⟨v, hv⟩, isSuperseded_ofSections.mp hfree⟩

/-- What is found under a name is the least section that counts under it, with
its value and its age. -/
theorem resolve_eq_some_iff {r : ResolvedSection} :
    (ofSections key raw catalog).resolve parsedName = some r
      ↔ catalog.Counts raw parsedName r.name
        ∧ (∀ name, catalog.Counts raw parsedName name →
          compare r.name name ≠ .gt)
        ∧ catalog.ParsesTo raw r.name r.data
        ∧ r.cacheInfo = raw.cacheInfo.get? r.name := by
  unfold resolve
  rw [Option.map_eq_some_iff]
  constructor
  · rintro ⟨⟨name, entry⟩, hfind, rfl⟩
    obtain ⟨hentry, hlooked, hleast⟩ :=
      SortedMap.find?_entries_eq_some_iff.mp hfind
    obtain ⟨v, hv, rfl⟩ := get?_parsed.mp hentry
    simp only [Bool.and_eq_true, beq_iff_eq, Bool.not_eq_true']
      at hlooked hleast
    refine ⟨(counts_iff key).mpr ⟨_, hentry, hlooked⟩, ?_, hv, rfl⟩
    intro other hother
    obtain ⟨entry, hentry, hlooked⟩ := (counts_iff key).mp hother
    exact hleast other entry hentry hlooked
  · rintro ⟨hcounts, hleast, hv, hage⟩
    obtain ⟨entry, hentry, hlooked⟩ := (counts_iff key).mp hcounts
    refine ⟨(r.name, entry), SortedMap.find?_entries_eq_some_iff.mpr
      ⟨hentry, ?_, ?_⟩, ?_⟩
    · simp [hlooked]
    · intro other otherEntry hother hotherLooked
      simp only [Bool.and_eq_true, beq_iff_eq, Bool.not_eq_true']
        at hotherLooked
      exact hleast other
        ((counts_iff key).mpr ⟨otherEntry, hother, hotherLooked⟩)
    · -- a section is parsed to one entry
      have hown : (ofSections key raw catalog).parsed.get? r.name
          = some _ := get?_parsed.mpr ⟨r.data, hv, rfl⟩
      rw [hentry] at hown
      rw [Option.some.inj hown, ← hage]

/-- Nothing is found under a name exactly if no section counts under it. -/
theorem resolve_eq_none_iff :
    (ofSections key raw catalog).resolve parsedName = none
      ↔ ∀ name, ¬ catalog.Counts raw parsedName name := by
  rw [← Option.not_isSome_iff_eq_none, resolve_isSome_iff]
  simp only [counts_iff key, not_exists]

-- ==================================================== what does not

/-- A section without a value leaves no trace among those that are parsed. -/
theorem parsed_without (hname : ¬ catalog.HasValue raw name) :
    (ofSections key (raw.without name) catalog).parsed
      = (ofSections key raw catalog).parsed := by
  refine SortedMap.ext_get? fun other => Option.ext fun entry => ?_
  rw [get?_parsed, get?_parsed]
  refine exists_congr fun v => and_congr_left fun _ => ?_
  unfold SectionCatalog.ParsesTo HostSections.without
  rw [SortedMap.get?_erase]
  refine and_congr_right fun hv => ?_
  by_cases hother : other = name
  · rw [if_pos hother]
    constructor
    · rintro ⟨rows, hrows, -⟩
      cases hrows
    · intro hparse
      exact absurd ⟨v, hv, hother ▸ hparse⟩ hname
  · rw [if_neg hother]

/-- A section without a value hides nothing, and shows nothing. -/
theorem resolve_without (hname : ¬ catalog.HasValue raw name) :
    (ofSections key (raw.without name) catalog).resolve parsedName
      = (ofSections key raw catalog).resolve parsedName := by
  unfold resolve isSuperseded
  rw [parsed_without hname]
  rfl

end SectionProvider

-- ==================================================== what went wrong

/-- What is said when the rows of a section make no sense to its plugin, or
break it off. -/
def ParseOutcome.message? : ParseOutcome → Option String
  | .value _ => none
  | .failed message | .crashed message => some message

/-- A plugin has something to say where it fails or breaks off. -/
theorem ParseOutcome.message?_eq_some_iff {outcome : ParseOutcome}
    {message : String} :
    outcome.message? = some message
      ↔ outcome = .failed message ∨ outcome = .crashed message := by
  cases outcome with
  | value v => simp [message?]
  | failed text | crashed text => simp [message?]

namespace SectionCatalog

variable {catalog : SectionCatalog} {raw : HostSections}

/-- The sections that cannot be parsed, and what was wrong. -/
def failures (catalog : SectionCatalog) (raw : HostSections) :
    List (SectionName × String) :=
  raw.sections.entries.filterMap fun (name, rows) =>
    ((catalog.pluginFor name).parse rows).message?.map (name, ·)

theorem mem_failures {name : SectionName} {message : String} :
    (name, message) ∈ catalog.failures raw
      ↔ catalog.Fails raw name message := by
  unfold failures Fails
  simp only [List.mem_filterMap, Prod.exists, Option.map_eq_some_iff,
    ParseOutcome.message?_eq_some_iff, Prod.mk.injEq,
    SortedMap.mem_entries_iff]
  constructor
  · rintro ⟨_, rows, hrows, _, hparse, rfl, rfl⟩
    exact ⟨rows, hrows, hparse⟩
  · rintro ⟨rows, hrows, hparse⟩
    exact ⟨name, rows, hrows, message, hparse, rfl, rfl⟩

/-- Failures come in the order of the sections, one for each. -/
theorem failures_sorted :
    (catalog.failures raw).Pairwise fun a b => compare a.1 b.1 = .lt := by
  unfold failures
  rw [List.pairwise_filterMap]
  refine raw.sections.sorted.imp fun {a b} hlt => ?_
  intro x hx y hy
  obtain ⟨_, -, rfl⟩ := Option.map_eq_some_iff.mp hx
  obtain ⟨_, -, rfl⟩ := Option.map_eq_some_iff.mp hy
  exact hlt

end SectionCatalog

namespace SectionProvider

/-- The errors of a provider are the failures of its sections, in order. -/
theorem parsingErrors_ofSections (key : HostKey) (raw : HostSections)
    (catalog : SectionCatalog) :
    (ofSections key raw catalog).parsingErrors
      = (catalog.failures raw).map fun e => parsingError e.1 e.2 := by
  unfold ofSections SectionCatalog.failures
  simp only
  rw [List.map_filterMap]
  refine List.filterMap_congr fun e _ => ?_
  cases (catalog.pluginFor e.1).parse e.2 <;> rfl

-- ==================================================== the main statement

/-- What a provider finds, and what it says went wrong, for every catalog and
all raw sections. Under a name it finds the value and the age of the least
section that counts under it, and nothing if there is none. A section without
a value changes nothing of what is found, whether its plugin makes nothing of
its rows, fails on them or breaks off. The names that are available are those
under which something is found. There is one error for each section whose
plugin fails or breaks off, in the order of the sections, and no other. -/
theorem resolve_exact (catalog : SectionCatalog) (key : HostKey)
    (raw : HostSections) :
    let provider := ofSections key raw catalog
    (∀ parsedName r, provider.resolve parsedName = some r
        ↔ catalog.Counts raw parsedName r.name
          ∧ (∀ name, catalog.Counts raw parsedName name →
            compare r.name name ≠ .gt)
          ∧ catalog.ParsesTo raw r.name r.data
          ∧ r.cacheInfo = raw.cacheInfo.get? r.name)
      ∧ (∀ parsedName, provider.resolve parsedName = none
        ↔ ∀ name, ¬ catalog.Counts raw parsedName name)
      ∧ (∀ name, ¬ catalog.HasValue raw name → ∀ parsedName,
        (ofSections key (raw.without name) catalog).resolve parsedName
          = provider.resolve parsedName)
      ∧ (∀ parsedName, parsedName ∈ provider.availableSections
        ↔ ∃ r, provider.resolve parsedName = some r)
      ∧ provider.availableSections.Pairwise (fun a b => compare a b = .lt)
      ∧ ∃ errors : List (SectionName × String),
        errors.Pairwise (fun a b => compare a.1 b.1 = .lt)
          ∧ (∀ name message, (name, message) ∈ errors
            ↔ catalog.Fails raw name message)
          ∧ provider.parsingErrors
            = errors.map fun e => parsingError e.1 e.2 := by
  intro provider
  refine ⟨?_, ?_, ?_, ?_, ?_, ?_⟩
  · exact fun parsedName r => resolve_eq_some_iff
  · exact fun parsedName => resolve_eq_none_iff
  · exact fun name hname parsedName => resolve_without hname
  · intro parsedName
    rw [mem_availableSections, Option.isSome_iff_exists]
  · exact SortedMap.keys_sorted _
  · exact ⟨catalog.failures raw, SectionCatalog.failures_sorted,
      fun name message => SectionCatalog.mem_failures,
      parsingErrors_ofSections key raw catalog⟩

/-- A catalog in which the newer of two plugins for interfaces supersedes the
older one, but makes no sense of what agents deliver. -/
def brokenCatalog : SectionCatalog where
  plugins := .ofList [("if", .trivial "if"),
    ("if64", { name := "if64", parsedName := "if", supersedes := ["if"],
               parse := fun _ => .failed "no counters" })]

/-- The older section is found, as it is without the newer one. -/
theorem resolve_exact_broken :
    let raw := SectionCatalog.interfaceSections
    ¬ brokenCatalog.HasValue raw "if64"
      ∧ ((ofSections default (raw.without "if64") brokenCatalog).resolve "if")
        = (ofSections default raw brokenCatalog).resolve "if"
      ∧ ((ofSections default raw brokenCatalog).resolve "if").map (·.name)
        = some "if" := by
  intro raw
  have hvalue : ¬ brokenCatalog.HasValue raw "if64" := by
    rintro ⟨v, -, rows, -, hparse⟩
    cases hparse
  exact ⟨hvalue,
    (resolve_exact brokenCatalog default raw).2.2.1 "if64" hvalue "if",
    by decide +kernel⟩

end SectionProvider

end HostWatch
