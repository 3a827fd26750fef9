/-
The parsed sections of a host key. A value is found by the name under which
checks ask for it; of several sections with that name the first one counts
that no section with a value supersedes.
-/
import HostWatch.Section.Plugin

namespace HostWatch

/-- A section with a value. -/
structure ParsedSection where
  parsedName : ParsedName
  data : Value
  cacheInfo : Option CacheInfo

/-- A value that was found, and the section that it comes from. -/
structure ResolvedSection where
  name : SectionName
  data : Value
  cacheInfo : Option CacheInfo

/-- The parsed sections of a host key. -/
structure SectionProvider where
  key : HostKey
  catalog : SectionCatalog
  parsed : SortedMap SectionName ParsedSection
  /-- What was wrong with the sections that could not be parsed. -/
  parsingErrors : List String

namespace SectionProvider

/-- What is said of a section that could not be parsed. -/
def parsingError (name : SectionName) (message : String) : String :=
  s!"Parsing of section {name} failed - {message}"

/-- The error text of an outcome, if it is one. -/
private def errorOf? (name : SectionName) : ParseOutcome → Option String
  | .value _ => none
  | .failed message | .crashed message => some (parsingError name message)

/-- The value of an outcome, if it is one and there is something in it. -/
private def valueOf? : ParseOutcome → Option Value
  | .value .null => none
  | .value v => some v
  | .failed _ | .crashed _ => none

/-- The provider of some raw sections. -/
def ofSections (key : HostKey) (raw : HostSections) (catalog : SectionCatalog) :
    SectionProvider where
  key := key
  catalog := catalog
  parsed := raw.sections.filterMap fun name rows =>
    let plugin := catalog.pluginFor name
    (valueOf? (plugin.parse rows)).map fun data =>
      { parsedName := plugin.parsedName, data, cacheInfo := raw.cacheInfo.get? name }
  parsingErrors := raw.sections.entries.filterMap fun (name, rows) =>
    errorOf? name ((catalog.pluginFor name).parse rows)

/-- Whether a section with a value supersedes the section `name`. -/
def isSuperseded (p : SectionProvider) (name : SectionName) : Bool :=
  (p.catalog.supersedersOf name).any p.parsed.contains

/-- The value that checks get under a name. -/
def resolve (p : SectionProvider) (parsedName : ParsedName) : Option ResolvedSection :=
  (p.parsed.entries.find? fun (name, entry) =>
    entry.parsedName == parsedName && !p.isSuperseded name).map fun (name, entry) =>
      ⟨name, entry.data, entry.cacheInfo⟩

/-- The names under which checks get a value, each once, in increasing order. -/
def availableSections (p : SectionProvider) : List ParsedName :=
  (SortedMap.ofList ((p.parsed.entries.filter fun (name, _) => !p.isSuperseded name).map
    fun (_, entry) => (entry.parsedName, ()))).keys

end SectionProvider

/-- The providers of a run. -/
abbrev Providers := SortedMap HostKey SectionProvider

/-- One provider for each host key that has raw sections. -/
def makeProviders (catalog : SectionCatalog) (grouped : SortedMap HostKey HostSections) :
    Providers :=
  grouped.map fun key raw => .ofSections key raw catalog

end HostWatch
