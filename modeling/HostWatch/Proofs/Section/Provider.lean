/-
What a provider finds, and that supersession takes nothing away for good.

A provider holds the sections whose rows their plugin turns into a value
with something in it (`get?_parsed`). Under a name something is found exactly
if one of these sections has the name and is not superseded by another of
them (`resolve_isSome_iff`), and what is found is such a section
(`parsed_of_resolve`). That is all that the rest of the theory uses of a
provider.

The main statement (`superseded_survives`) joins this to the catalog. A
section that does not count is superseded by one that is there as well. The
catalog has no circle, and the provider holds finitely many sections, so
supersession among them is well-founded upwards too, and the way up from any
section ends at one that counts.
-/
import HostWatch.Proofs.Section.Supersession
import HostWatch.Section.Provider
import Mathlib.Data.List.Permutation
import Mathlib.Order.WellFoundedSet
import Mathlib.Tactic.Tauto

namespace HostWatch

open SectionPlugin (Supersedes)

-- ==================================================== what is parsed

/-- The section `name` is there, and its plugin turns its rows into `v`, in
which there is something. -/
def SectionCatalog.ParsesTo (catalog : SectionCatalog) (raw : HostSections)
    (name : SectionName) (v : Value) : Prop :=
  v ≠ .null ∧ ∃ rows, raw.sections.get? name = some rows
    ∧ (catalog.pluginFor name).parse rows = .value v

/-- The section `name` is there and has a value. -/
def SectionCatalog.HasValue (catalog : SectionCatalog) (raw : HostSections)
    (name : SectionName) : Prop :=
  ∃ v, catalog.ParsesTo raw name v

namespace SectionProvider

variable {key : HostKey} {raw : HostSections} {catalog : SectionCatalog}

/-- The parsed sections of a provider are those that have a value. -/
theorem get?_parsed {name : SectionName} {entry : ParsedSection} :
    (ofSections key raw catalog).parsed.get? name = some entry
      ↔ ∃ v, catalog.ParsesTo raw name v
          ∧ entry = ⟨catalog.parsedName name, v, raw.cacheInfo.get? name⟩ := by
  unfold ofSections SectionCatalog.ParsesTo SectionCatalog.parsedName
  simp only [SortedMap.get?_filterMap, Option.bind_eq_some_iff,
    Option.map_eq_some_iff]
  constructor
  · rintro ⟨rows, hrows, v, hvalue, rfl⟩
    refine ⟨v, ⟨?_, rows, hrows, ?_⟩, rfl⟩
    · rintro rfl
      cases hparse : (catalog.pluginFor name).parse rows with
      | value w => rw [hparse] at hvalue; cases w <;> cases hvalue
      | failed message | crashed message => rw [hparse] at hvalue; cases hvalue
    · cases hparse : (catalog.pluginFor name).parse rows with
      | value w => rw [hparse] at hvalue; cases w <;> cases hvalue <;> rfl
      | failed message | crashed message => rw [hparse] at hvalue; cases hvalue
  · rintro ⟨v, ⟨hnull, rows, hrows, hparse⟩, rfl⟩
    refine ⟨rows, hrows, v, ?_, rfl⟩
    rw [hparse]
    cases v <;> first | rfl | exact absurd rfl hnull

/-- A provider has parsed a section exactly if the section has a value. -/
theorem get?_parsed_isSome {name : SectionName} :
    ((ofSections key raw catalog).parsed.get? name).isSome
      ↔ catalog.HasValue raw name := by
  rw [Option.isSome_iff_exists]
  constructor
  · rintro ⟨entry, hentry⟩
    obtain ⟨v, hv, -⟩ := get?_parsed.mp hentry
    exact ⟨v, hv⟩
  · rintro ⟨v, hv⟩
    exact ⟨_, get?_parsed.mpr ⟨v, hv, rfl⟩⟩

-- ==================================================== what is found

variable {p : SectionProvider}

/-- A section counts if no section that supersedes it is parsed. -/
theorem isSuperseded_eq_false_iff {name : SectionName} :
    p.isSuperseded name = false
      ↔ ∀ superseder ∈ p.catalog.supersedersOf name,
          p.parsed.get? superseder = none := by
  unfold isSuperseded SortedMap.contains
  simp

/-- What is found under a name is a parsed section of that name that is not
superseded. -/
theorem parsed_of_resolve {parsedName : ParsedName} {r : ResolvedSection}
    (h : p.resolve parsedName = some r) :
    p.parsed.get? r.name = some ⟨parsedName, r.data, r.cacheInfo⟩
      ∧ p.isSuperseded r.name = false := by
  unfold resolve at h
  obtain ⟨⟨name, entry⟩, hfind, rfl⟩ := Option.map_eq_some_iff.mp h
  have hmem := List.mem_of_find?_eq_some hfind
  have hcounts := List.find?_some hfind
  simp only [Bool.and_eq_true, beq_iff_eq, Bool.not_eq_true'] at hcounts
  obtain ⟨rfl, hfree⟩ := hcounts
  exact ⟨(SortedMap.mem_entries_iff _ _ _).mp hmem, hfree⟩

/-- Something is found under a name exactly if a parsed section of that
name is not superseded. -/
theorem resolve_isSome_iff {parsedName : ParsedName} :
    (p.resolve parsedName).isSome
      ↔ ∃ name entry, p.parsed.get? name = some entry
          ∧ entry.parsedName = parsedName ∧ p.isSuperseded name = false := by
  constructor
  · intro h
    obtain ⟨r, hr⟩ := Option.isSome_iff_exists.mp h
    obtain ⟨hparsed, hfree⟩ := parsed_of_resolve hr
    exact ⟨r.name, _, hparsed, rfl, hfree⟩
  · rintro ⟨name, entry, hparsed, hname, hfree⟩
    unfold resolve
    rw [Option.isSome_map, List.find?_isSome]
    refine ⟨(name, entry), (SortedMap.mem_entries_iff _ _ _).mpr hparsed, ?_⟩
    simp [hname, hfree]

/-- The names under which there is something to find. -/
theorem mem_availableSections {parsedName : ParsedName} :
    parsedName ∈ p.availableSections ↔ (p.resolve parsedName).isSome := by
  unfold availableSections
  rw [SortedMap.mem_keys_ofList, resolve_isSome_iff, List.map_map,
    List.mem_map]
  simp only [List.mem_filter, Prod.exists, SortedMap.mem_entries_iff,
    Function.comp, Bool.not_eq_true']
  exact exists_congr fun name => exists_congr fun entry => by tauto

end SectionProvider

-- ==================================================== the way up

/-- A way from the section `name` up to `last`: every section on it has a
value and is superseded by the one after it, and no section with a value
supersedes the last one. -/
structure WayUp (plugins : List SectionPlugin) (catalog : SectionCatalog)
    (raw : HostSections) (name : SectionName) (rest : List SectionName)
    (last : SectionName) : Prop where
  ends : (name :: rest).getLast? = some last
  climbs : (name :: rest).IsChain
    fun lower upper => Supersedes plugins upper lower
  values : ∀ other ∈ name :: rest, catalog.HasValue raw other
  free : ∀ superseder, catalog.HasValue raw superseder →
    ¬ Supersedes plugins superseder last

namespace SectionCatalog

variable {plugins : List SectionPlugin} {catalog : SectionCatalog}
    {raw : HostSections}

/-- In a catalog supersession is well-founded upwards among the sections
that have a value. -/
private theorem supersedes_wellFoundedOn (h : ofList plugins = .ok catalog)
    (key : HostKey) (raw : HostSections) :
    {name | name ∈ (SectionProvider.ofSections key raw catalog).parsed.keys}
      |>.WellFoundedOn (Relation.TransGen (Supersedes plugins)) := by
  have : IsStrictOrder SectionName
      (Relation.TransGen (Supersedes plugins)) :=
    { irrefl := (of_ok h).2
      trans := fun _ _ _ => Relation.TransGen.trans }
  exact (List.finite_toSet _).wellFoundedOn

/-- A section has a value exactly if it is a key of the parsed sections. -/
private theorem mem_parsed_keys {key : HostKey} {name : SectionName} :
    name ∈ (SectionProvider.ofSections key raw catalog).parsed.keys
      ↔ catalog.HasValue raw name := by
  rw [SortedMap.mem_keys, ← Option.isSome_iff_exists]
  exact SectionProvider.get?_parsed_isSome

/-- From every section with a value there is a way up. -/
theorem exists_wayUp (h : ofList plugins = .ok catalog) {name : SectionName}
    (hname : catalog.HasValue raw name) :
    ∃ rest last, WayUp plugins catalog raw name rest last := by
  have hwf := supersedes_wellFoundedOn h default raw
  refine hwf.induction (mem_parsed_keys.mpr hname)
    (P := fun name => ∃ rest last, WayUp plugins catalog raw name rest last)
    fun lower hlower ih => ?_
  replace hlower : catalog.HasValue raw lower := mem_parsed_keys.mp hlower
  by_cases hfree : ∃ upper, catalog.HasValue raw upper
      ∧ Supersedes plugins upper lower
  · obtain ⟨upper, hupper, hsupersedes⟩ := hfree
    obtain ⟨rest, last, hway⟩ :=
      ih upper (mem_parsed_keys.mpr hupper) (.single hsupersedes)
    refine ⟨upper :: rest, last, ?_, ?_, ?_, hway.free⟩
    · rw [List.getLast?_cons_cons]
      exact hway.ends
    · exact List.isChain_cons_cons.mpr ⟨hsupersedes, hway.climbs⟩
    · intro other hother
      rcases List.mem_cons.mp hother with rfl | hother
      · exact hlower
      · exact hway.values other hother
  · refine ⟨[], lower, rfl, List.isChain_singleton _, ?_, ?_⟩
    · intro other hother
      rw [List.mem_singleton.mp hother]
      exact hlower
    · exact fun superseder hvalue hsupersedes =>
        hfree ⟨superseder, hvalue, hsupersedes⟩

/-- At the end of a way up something is found under the section's name. -/
theorem resolve_of_wayUp (h : ofList plugins = .ok catalog) (key : HostKey)
    {name last : SectionName} {rest : List SectionName}
    (hway : WayUp plugins catalog raw name rest last) :
    ((SectionProvider.ofSections key raw catalog).resolve
      (catalog.parsedName last)).isSome := by
  have hmem : last ∈ name :: rest := List.mem_of_getLast? hway.ends
  obtain ⟨v, hv⟩ := hway.values last hmem
  refine SectionProvider.resolve_isSome_iff.mpr ⟨last, _,
    SectionProvider.get?_parsed.mpr ⟨v, hv, rfl⟩, rfl, ?_⟩
  rw [SectionProvider.isSuperseded_eq_false_iff]
  intro superseder hsuperseder
  have hsupersedes : Supersedes plugins superseder last :=
    (mem_supersedersOf_of_ok h).mp hsuperseder
  rw [← Option.not_isSome_iff_eq_none, SectionProvider.get?_parsed_isSome]
  exact fun hvalue => hway.free superseder hvalue hsupersedes

/-- Whatever is superseded in a catalog, its facility is not lost: from
every section with a value there is a way up to one that counts, under whose
name something is found. So a provider that has parsed any section at all has
something to find. -/
theorem superseded_survives (plugins : List SectionPlugin)
    (catalog : SectionCatalog) (h : ofList plugins = .ok catalog)
    (key : HostKey) (raw : HostSections) :
    let provider := SectionProvider.ofSections key raw catalog
    (∀ name, catalog.HasValue raw name →
      ∃ rest last, WayUp plugins catalog raw name rest last
        ∧ (provider.resolve (catalog.parsedName last)).isSome)
      ∧ (provider.parsed.isEmpty = false →
          provider.availableSections ≠ []) := by
  intro provider
  refine ⟨fun name hname => ?_, fun hparsed hnone => ?_⟩
  · obtain ⟨rest, last, hway⟩ := exists_wayUp h hname
    exact ⟨rest, last, hway, resolve_of_wayUp h key hway⟩
  · -- any one of the parsed sections leads up to a name that is available
    obtain ⟨name, hkey⟩ : ∃ name, name ∈ provider.parsed.keys := by
      refine List.exists_mem_of_ne_nil _ fun hnil => ?_
      unfold SortedMap.keys at hnil
      unfold SortedMap.isEmpty at hparsed
      rw [List.map_eq_nil_iff.mp hnil] at hparsed
      cases hparsed
    obtain ⟨rest, last, hway⟩ := exists_wayUp h (mem_parsed_keys.mp hkey)
    have hmem := SectionProvider.mem_availableSections.mpr
      (resolve_of_wayUp h key hway)
    rw [hnone] at hmem
    cases hmem

/-- Three plugins for the interfaces of a host, of which two supersede older
ones. -/
def interfacePlugins : List SectionPlugin :=
  [.trivial "if", { SectionPlugin.trivial "if64" with supersedes := ["if"] },
    { SectionPlugin.trivial "lnx_if" with supersedes := ["if", "if64"] }]

/-- An agent that delivers the two older ones. -/
def interfaceSections : HostSections :=
  ((∅ : HostSections).addSection "if" [["eth0"]] none).addSection "if64"
    [["eth0", "64"]] none

/-- The oldest section of two leads up to the other one. -/
theorem superseded_survives_interfaces :
    ∃ catalog, ofList interfacePlugins = .ok catalog
      ∧ catalog.HasValue interfaceSections "if"
      ∧ ∃ rest last, WayUp interfacePlugins catalog interfaceSections "if" rest
          last
        ∧ ((SectionProvider.ofSections default interfaceSections
            catalog).resolve (catalog.parsedName last)).isSome := by
  have hok : (ofList interfacePlugins).toOption.isSome = true := by cbv
  cases hresult : ofList interfacePlugins with
  | error circle => rw [hresult] at hok; cases hok
  | ok catalog =>
      have hplugin : catalog.pluginFor "if" = .trivial "if" := by
        unfold pluginFor
        rw [(of_ok hresult).1]
        rfl
      have hrows : interfaceSections.sections.get? "if" = some [["eth0"]] := by
        decide +kernel
      have hnull : SectionPlugin.tableValue [["eth0"]] ≠ .null := by
        intro h
        cases h
      have hname : catalog.HasValue interfaceSections "if" :=
        ⟨_, hnull, _, hrows, by rw [hplugin]; rfl⟩
      exact ⟨catalog, rfl, hname, (superseded_survives interfacePlugins catalog
        hresult default interfaceSections).1 "if" hname⟩

end SectionCatalog

end HostWatch
