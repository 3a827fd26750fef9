/-
Calls of check functions: what a function is given, and how it may end.

A check function is a function of its arguments, of the service that is
being checked and of what the service remembers. It changes nothing
itself; the values that it wants to be remembered are part of its result.
-/
import HostWatch.Agent.Sections
import HostWatch.CheckOutput
import HostWatch.Parameters
import HostWatch.ValueStore

namespace HostWatch

/-- The values of the sections that a plugin asks for; none where a section has no value. -/
abbrev SectionData := SortedMap ParsedName (Option Value)

namespace SectionData

/-- The value of a section. -/
def section? (data : SectionData) (name : ParsedName) : Option Value := (data.get? name).join

/-- Whether some section has a value. -/
def hasContent (data : SectionData) : Bool := data.values.any (·.isSome)

/-- The sections as a value, `null` where a section has none. -/
def toValue (data : SectionData) : Value := .ofFields (data.map fun _ v => v.getD .null)

end SectionData

/-- The arguments of a check function. -/
structure CheckCall where
  item : Option String
  /-- The parameters, for plugins that have any. -/
  params : Option Parameters
  sections : SectionData

/-- The arguments of a check function for clusters. -/
structure ClusterCall where
  item : Option String
  /-- The parameters, for plugins that have any. -/
  params : Option Parameters
  /-- The sections of each node that has some. -/
  nodes : SortedMap HostName SectionData

/-- The arguments of a check function of either kind. -/
inductive AnyCall where
  | host (call : CheckCall)
  | cluster (call : ClusterCall)

/-- Parameters that may be absent, as a value. -/
private def paramsValue : Option Parameters → Value
  | some params => .ofFields params
  | none => .null

/-- Arguments as a value. -/
def AnyCall.toValue : AnyCall → Value
  | .host call =>
    .ofPairs [("item", .ofText? call.item), ("params", paramsValue call.params),
      ("sections", call.sections.toValue)]
  | .cluster call =>
    .ofPairs [("item", .ofText? call.item), ("params", paramsValue call.params),
      ("nodes", .ofFields (call.nodes.map fun _ sections => sections.toValue))]

/-- The service that is being checked. -/
structure CurrentService where
  host : HostName
  description : String
  id : ServiceId
deriving DecidableEq, Repr

namespace CurrentService

/-- The service as a text. -/
def label (s : CurrentService) : String := s!"{s.description} on {s.host}"

/-- Whose namespace the service has. -/
def namespaceKey (s : CurrentService) : NamespaceKey := { host := s.host, service := s.id }

end CurrentService

/-- How a check function ends. -/
inductive Ending where
  /-- It yields outputs. -/
  | yielded (outputs : List CheckOutput)
  /-- It asks for its results to be ignored this time. -/
  | ignored (message : Option String)
  /-- It was interrupted. -/
  | timedOut
  /-- It gives up with a message. -/
  | failed (message : String)
  /-- It breaks off; the message is what can be said about it. -/
  | crashed (message : String)
deriving DecidableEq

/-- What a check function leaves behind. -/
structure CheckRun where
  ending : Ending
  /-- What the service is to remember. -/
  values : Namespace
  /-- Whether the run of all checks is to be broken off. -/
  cancels : Bool := false

instance : Inhabited CheckRun := ⟨{ ending := .timedOut, values := ∅ }⟩

/-- A check function. -/
abbrev CheckFunction := CheckCall → CurrentService → Namespace → CheckRun

/-- A check function for clusters. -/
abbrev ClusterFunction := ClusterCall → CurrentService → Namespace → CheckRun

end HostWatch
