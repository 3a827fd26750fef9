/-
The result of a host: what has become of its sources, of the parsing of
its sections and of the data that its services need. The results of the
checks themselves do not enter into it.
-/
import HostWatch.Check.Invoke
import HostWatch.ExitSpec
import HostWatch.HostResult
import HostWatch.PatternLanguage

namespace HostWatch.HostReport

/-- What has become of a source. A device may have nothing to say over the management protocol. -/
def ofSource (spec : ExitSpec) (parsed : Parsed) : HostResult :=
  let source := parsed.1
  match parsed.2 with
  | .ok sections =>
    if sections.isEmpty ∧ source.fetcher ≠ .snmp then
      { state := spec.emptyOutput, summary := s!"[{source.ident}] Empty output" }
    else { state := .ok, summary := s!"[{source.ident}] Success" }
  | .error e =>
    { state := spec.ofFetchError e, summary := s!"[{source.ident}] {e.message}" }

/-- What has become of each source. -/
def ofSources (spec : ExitSpec) (parsed : List Parsed) : List HostResult :=
  parsed.map (ofSource spec)

/-- An error in the parsing of a section; its headline ends where the explanation begins. -/
def ofParsingError (state : State) (message : String) : HostResult where
  state := state
  summary := String.ofList (Text.before " - ".toList message.toList)
  details := [message]

/-- The test of an exception, whose pattern has to match at the start of a plugin's name. -/
def specificPattern? [PatternLanguage] (text : String) : Option (String → Bool) :=
  (PatternLanguage.compile s!"^(?:{text})").toOption

/-- The exceptions whose patterns are well formed. -/
def specificPatterns [PatternLanguage] (spec : ExitSpec) : List ((String → Bool) × State) :=
  spec.specificMissing.filterMap fun (text, state) => (specificPattern? text).map (·, state)

/-- The state of the first exception that applies to a plugin. -/
def specificState? (patterns : List ((String → Bool) × State)) (plugin : PluginName) :
    Option State :=
  (patterns.find? fun (isMatch, _) => isMatch plugin).map (·.2)

/-- The plugins without data, each once, in order. -/
def missingPlugins (outcomes : List ServiceOutcome) : List PluginName :=
  (SortedMap.ofList ((outcomes.filter (!·.dataReceived)).map fun o => (o.service.plugin, ()))).keys

/-- The plugins for which data is missing. -/
def ofMissingData [PatternLanguage] (spec : ExitSpec) (outcomes : List ServiceOutcome) :
    List HostResult :=
  if outcomes.all (·.dataReceived) then []
  else if !outcomes.any (·.dataReceived) then
    [{ state := spec.missingSections, summary := "Missing monitoring data for all plugins" }]
  else
    let patterns := specificPatterns spec
    let missing := missingPlugins outcomes
    let generic := missing.filter fun plugin => (specificState? patterns plugin).isNone
    let specific := missing.filterMap fun plugin =>
      (specificState? patterns plugin).map fun state => { state, summary := plugin : HostResult }
    let headline : List HostResult :=
      if generic.isEmpty then []
      else
        [{ state := spec.missingSections
           summary := "Missing monitoring data for plugins: " ++ ", ".intercalate generic }]
    headline ++ specific

/-- The result of a host. -/
def total [PatternLanguage] (sources : List HostResult) (providers : Providers)
    (outcomes : List ServiceOutcome) (spec : ExitSpec) : HostResult :=
  let errors := providers.values.flatMap (·.parsingErrors)
  HostResult.combine
    (sources ++ errors.map (ofParsingError .warn) ++ ofMissingData spec outcomes)

end HostWatch.HostReport
