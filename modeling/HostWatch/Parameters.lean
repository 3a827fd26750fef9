/-
The parameters of a check. They are configured as sets, each with a
default and with values for time periods, and evaluated to one record that
is laid over the defaults of the plugin.
-/
import HostWatch.Levels
import HostWatch.Period

namespace HostWatch

/-- Evaluated parameters. -/
abbrev Parameters := Fields

namespace Parameters

/-- The key under which a value is kept that is no record. -/
def wrapperKey : String := "auto-migration-wrapper-key"

/-- The parameters that a value stands for. -/
def ofValue : Value → Parameters
  | .record fields => SortedMap.ofList fields
  | .null => ∅
  | v => SortedMap.insert ∅ wrapperKey v

/-- The number under a key. -/
def float? (p : Parameters) (key : String) : Option Float := (p.get? key).bind Value.float?

/-- The levels under a key: a list of two numbers. -/
def levels? (p : Parameters) (key : String) : Option Levels :=
  match p.get? key with
  | some (.list [warn, crit]) => do pure ⟨← warn.float?, ← crit.float?⟩
  | _ => none

end Parameters

/-- A default, and the values that replace or complete it during time periods. -/
structure ParameterSet where
  default : Value
  periodValues : List (PeriodName × Value) := []

namespace ParameterSet

/-- A set with one value at all times. -/
def constant (v : Value) : ParameterSet := { default := v }

/--
The value that holds: that of the first active period, laid over the default if both are records.
A default that is no record holds at all times.
-/
def evaluate (set : ParameterSet) (oracle : PeriodOracle) : Value :=
  match set.default.fields? with
  | none => set.default
  | some default =>
    match set.periodValues.find? fun (period, _) => oracle period with
    | none => set.default
    | some (_, v) =>
      match v.fields? with
      | some fields => .ofFields (default.overlay fields)
      | none => v

end ParameterSet

/-- The configured parameters of a service. -/
structure ParameterConfig where
  sets : List ParameterSet := []

namespace ParameterConfig

instance : Inhabited ParameterConfig := ⟨{}⟩

/-- Parameters that are one value at all times. -/
def legacy (v : Value) : ParameterConfig := ⟨[.constant v]⟩

/-- Whether no value depends on a time period. -/
def isConstant (c : ParameterConfig) : Bool := c.sets.all (·.periodValues.isEmpty)

/-- The fields of the sets that evaluate to a record; an earlier set's fields win. -/
def mergedFields (oracle : PeriodOracle) (sets : List ParameterSet) : Fields :=
  sets.foldr (fun set acc =>
    match (set.evaluate oracle).fields? with
    | some fields => acc.overlay fields
    | none => acc) ∅

/-- The value that holds. If the first set's default is no record, it is that alone. -/
def evaluate (c : ParameterConfig) (oracle : PeriodOracle) : Value :=
  match c.sets with
  | [] => .ofFields ∅
  | first :: _ =>
    if first.default.isRecord then .ofFields (mergedFields oracle c.sets)
    else first.evaluate oracle

/-- The parameters for a plugin with defaults. -/
def compute (c : ParameterConfig) (defaults : Value) (oracle : PeriodOracle) : Parameters :=
  let configured := c.evaluate oracle
  match defaults.fields?, configured.fields? with
  | some defaults, some fields => defaults.overlay fields
  | none, some fields => if fields.isEmpty then .ofValue defaults else fields
  | _, none => .ofValue configured

-- ==================================================== configuration values

/-- The value of a time period: a pair of a name and a value. -/
def readPeriodValue? : Value → Option (PeriodName × Value)
  | .list [.text period, v] => some (period, v)
  | _ => none

/-- The set that a value is: a record with a default, or its fields in a list. -/
def readSet? : Value → Option ParameterSet
  | .record fields => do
    let default ← SortedMap.find? "default" fields
    let periodValues ← match SortedMap.find? "timeperiod_values" fields with
      | none => some []
      | some v => v.items?.bind (·.mapM readPeriodValue?)
    pure { default, periodValues }
  | .list [default] => some { default }
  | .list [default, .list items] => do
    let periodValues ← items.mapM readPeriodValue?
    pure { default, periodValues }
  | _ => none

/-- The sets that a value is a list of. -/
def readSets? : Value → Option (List ParameterSet)
  | .list items => items.mapM readSet?
  | _ => none

/-- The parameters that a configuration value stands for: a list of sets, or else one value. -/
def ofValue (v : Value) : ParameterConfig :=
  match readSets? v with
  | some sets => ⟨sets⟩
  | none =>
    match v with
    | .null => {}
    | v => legacy v

/-- Whether a document is a list with a set of which a field is given twice. -/
def repeatsFields : Document → Bool
  | .list items => items.any (Document.repeats ["default", "timeperiod_values"])
  | _ => false

/-- Reads parameters. A set with a field that is given twice makes the whole one value. -/
def decode : Decoder ParameterConfig := fun d =>
  d.value?.map fun v => if repeatsFields d then legacy v else ofValue v

/-- A set as a configuration value. -/
def writeSet (set : ParameterSet) : Value :=
  .record [("default", set.default),
    ("timeperiod_values", .list (set.periodValues.map fun (period, v) => .list [.text period, v]))]

/-- Parameters as a configuration value, always a list of sets. -/
def toValue (c : ParameterConfig) : Value := .list (c.sets.map writeSet)

end ParameterConfig

end HostWatch
