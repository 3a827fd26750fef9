/-
The names that the engine goes by: of hosts, sections and plugins, and the
keys made of them.

A check plugin whose name begins with `mgmt_` is a management plugin: it
reads what the management board of a host delivers, not the host itself.
-/
import HostWatch.Text.Split
import HostWatch.Document.Decode

namespace HostWatch

/-- The name of a host, a cluster or a node of one. -/
abbrev HostName := String

/-- The name of a section as the agent writes it. -/
abbrev SectionName := String

/-- The name of what a section plugin makes of a section. -/
abbrev ParsedName := String

/-- The name of a time period. -/
abbrev PeriodName := String

/-- The name of a check plugin. -/
abbrev PluginName := String

/-- Where data comes from: the host itself or its management board. -/
inductive SourceType where
  | host
  | management
deriving DecidableEq, Repr, Inhabited

/-- The word for a source type. -/
def SourceType.label : SourceType → String
  | .host => "HOST"
  | .management => "MANAGEMENT"

/-- Both source types. -/
def SourceType.all : List SourceType := [.host, .management]

/-- The name of a source type in configurations. -/
def SourceType.name : SourceType → String
  | .host => "host"
  | .management => "management"

/-- Reads a source type. -/
def SourceType.decode : Decoder SourceType :=
  Decoder.enumeration SourceType.all SourceType.name

/-- The host comes before its management board. -/
def SourceType.index : SourceType → Nat
  | .host => 0
  | .management => 1

/-- A host and one of its two kinds of sources. -/
structure HostKey where
  host : HostName
  sourceType : SourceType
deriving DecidableEq, Repr, Inhabited

namespace HostKey

/-- The key as a text. -/
def label (k : HostKey) : String := s!"{k.host} ({k.sourceType.label})"

/-- Keys are ordered by host, and those of one host by source type. -/
instance : Ord HostKey where
  compare := compareLex (compareOn (·.host)) (compareOn (·.sourceType.index))

instance : Std.TransOrd HostKey :=
  inferInstanceAs (Std.TransCmp
    (compareLex (compareOn (·.host)) (compareOn fun k : HostKey => k.sourceType.index)))

instance : Std.LawfulEqOrd HostKey where
  eq_of_compare {a b} h := by
    obtain ⟨h1, h2⟩ := Ordering.then_eq_eq.mp h
    have e1 : a.host = b.host := Std.LawfulEqOrd.eq_of_compare h1
    have e2 : a.sourceType.index = b.sourceType.index := Std.LawfulEqOrd.eq_of_compare h2
    obtain ⟨_, sa⟩ := a
    obtain ⟨_, sb⟩ := b
    cases sa <;> cases sb <;> simp_all [SourceType.index]

/-- A key as a value. -/
def toValue (k : HostKey) : Value :=
  .ofPairs [("hostname", .text k.host), ("source_type", .text k.sourceType.name)]

/-- Reads a key. -/
def decode : Decoder HostKey := fun d => do
  let slot ← Slot.ofDocument? .data ["hostname", "source_type"] d
  let host ← (slot "hostname").required Decoder.text
  let sourceType ← (slot "source_type").required SourceType.decode
  pure { host, sourceType }

end HostKey

/-- A check plugin and, where it checks several things, the one of them that is meant. -/
structure ServiceId where
  plugin : PluginName
  item : Option String
deriving DecidableEq, Repr, Inhabited

namespace ServiceId

/-- The identity as a text. -/
def label (id : ServiceId) : String :=
  match id.item with
  | some item => id.plugin ++ "/" ++ item
  | none => id.plugin

/-- Identities are ordered by plugin, and those of one plugin by item, none first. -/
instance : Ord ServiceId where
  compare := compareLex (compareOn (·.plugin)) (compareOn (·.item))

instance : Std.TransOrd ServiceId :=
  inferInstanceAs (Std.TransCmp
    (compareLex (compareOn (·.plugin)) (compareOn fun i : ServiceId => i.item)))

instance : Std.LawfulEqOrd ServiceId where
  eq_of_compare {a b} h := by
    obtain ⟨h1, h2⟩ := Ordering.then_eq_eq.mp h
    have e1 : a.plugin = b.plugin := Std.LawfulEqOrd.eq_of_compare h1
    have e2 : a.item = b.item := Std.LawfulEqOrd.eq_of_compare h2
    cases a; cases b; simp_all

end ServiceId

namespace PluginName

/-- What the name of a management plugin begins with. -/
def managementLead : String := "mgmt_"

/-- Whether a plugin is a management plugin. -/
def isManagement (name : PluginName) : Bool :=
  managementLead.toList.isPrefixOf name.toList

/-- The name of the management plugin that goes with a plugin. -/
def toManagement (name : PluginName) : PluginName :=
  if isManagement name then name else managementLead ++ name

/-- The name of the plugin that a management plugin goes with. -/
def toBasic (name : PluginName) : PluginName :=
  match Text.dropPrefix? managementLead.toList name.toList with
  | some rest => String.ofList rest
  | none => name

/-- Where a plugin's data comes from. -/
def sourceType (name : PluginName) : SourceType :=
  if isManagement name then .management else .host

end PluginName

/-- The check plugins that a run is about. -/
inductive PluginSelection where
  | everything
  | only (names : List PluginName)
deriving DecidableEq, Repr, Inhabited

namespace PluginSelection

/-- Whether a plugin is selected. -/
def selects : PluginSelection → PluginName → Bool
  | everything, _ => true
  | only names, name => names.contains name

/-- Whether nothing is left out. -/
def isEverything : PluginSelection → Bool
  | everything => true
  | only _ => false

end PluginSelection

end HostWatch
