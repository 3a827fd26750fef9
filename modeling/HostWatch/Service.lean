/-
The services that are configured for a host.
-/
import HostWatch.Parameters
import HostWatch.Document.Decode

namespace HostWatch

/-- A service that is configured for a host. -/
structure Service where
  plugin : PluginName
  item : Option String := none
  description : String
  parameters : ParameterConfig := {}
  labels : SortedMap String String := ∅
  isEnforced : Bool := false
  /-- When the service is checked; always, if there is no period. -/
  checkPeriod : Option PeriodName := none

namespace Service

instance : Inhabited Service := ⟨{ plugin := "", description := "" }⟩

/-- What tells the services of a host apart. -/
def id (s : Service) : ServiceId := ⟨s.plugin, s.item⟩

/-- The names of a service's fields, in the order of their list form. -/
private def fieldNames : List String :=
  ["check_plugin_name", "item", "description", "parameters", "labels", "is_enforced",
    "check_period"]

/-- Reads a service. -/
def decode (dialect : Dialect) : Decoder Service := fun d => do
  let slot ← Slot.ofDocument? dialect fieldNames d
  let text := Decoder.text
  let plugin ← (slot "check_plugin_name").required text
  let item ← (slot "item").withDefault none text.optional
  let description ← (slot "description").required text
  let parameters ← (slot "parameters").withDefault {} ParameterConfig.decode
  let labels ← (slot "labels").withDefault ∅ (Decoder.map text)
  let isEnforced ← (slot "is_enforced").withDefault false Decoder.bool
  let checkPeriod ← (slot "check_period").withDefault none text.optional
  pure { plugin, item, description, parameters, labels, isEnforced, checkPeriod }

/-- A service as a value. -/
def toValue (s : Service) : Value :=
  .ofPairs [("check_plugin_name", .text s.plugin), ("item", .ofText? s.item),
    ("description", .text s.description), ("parameters", s.parameters.toValue),
    ("labels", .ofFields (s.labels.map fun _ label => .text label)),
    ("is_enforced", .bool s.isEnforced), ("check_period", .ofText? s.checkPeriod)]

end Service

end HostWatch
