/-
What check plugins remember from one run to the next. Each service has a
namespace of its own, and so has each node of a clustered service.

A check function works on a copy of its namespace. When it ends, however
it ends, the copy takes the place of what was stored; an empty copy leaves
nothing behind.
-/
import HostWatch.Name
import HostWatch.Document.Decode

namespace HostWatch

/-- Whose values a namespace holds: a service's, or those of a service on one node. -/
structure NamespaceKey where
  host : HostName
  service : ServiceId
  node : Option HostName := none
deriving DecidableEq, Repr, Inhabited

namespace NamespaceKey

/-- Keys are ordered by host, then by service, then by node, none first. -/
instance : Ord NamespaceKey where
  compare := compareLex (compareOn (·.host))
    (compareLex (compareOn (·.service)) (compareOn (·.node)))

instance : Std.TransOrd NamespaceKey :=
  inferInstanceAs (Std.TransCmp (compareLex (compareOn (·.host))
    (compareLex (compareOn (·.service)) (compareOn fun k : NamespaceKey => k.node))))

instance : Std.LawfulEqOrd NamespaceKey where
  eq_of_compare {a b} h := by
    obtain ⟨h1, h23⟩ := Ordering.then_eq_eq.mp h
    obtain ⟨h2, h3⟩ := Ordering.then_eq_eq.mp h23
    have e1 : a.host = b.host := Std.LawfulEqOrd.eq_of_compare h1
    have e2 : a.service = b.service := Std.LawfulEqOrd.eq_of_compare h2
    have e3 : a.node = b.node := Std.LawfulEqOrd.eq_of_compare h3
    cases a; cases b; simp_all

/-- The namespace of the same service on a node. -/
def withNode (k : NamespaceKey) (node : HostName) : NamespaceKey := { k with node := some node }

/-- A service's identity as a value. -/
def serviceValue (id : ServiceId) : Value :=
  .ofPairs [("name", .text id.plugin), ("item", .ofText? id.item)]

/-- A key as a value. -/
def toValue (k : NamespaceKey) : Value :=
  .ofPairs [("host", .text k.host), ("service", serviceValue k.service), ("node", .ofText? k.node)]

/-- Reads a service's identity. -/
def decodeService : Decoder ServiceId := fun d => do
  let slot ← Slot.ofDocument? .data ["name", "item"] d
  let plugin ← (slot "name").required Decoder.text
  let item ← (slot "item").optional Decoder.text
  pure { plugin, item }

/-- Reads a key. -/
def decode : Decoder NamespaceKey := fun d => do
  let slot ← Slot.ofDocument? .data ["host", "service", "node"] d
  let host ← (slot "host").required Decoder.text
  let service ← (slot "service").required decodeService
  let node ← (slot "node").withDefault none Decoder.text.optional
  pure { host, service, node }

end NamespaceKey

/-- The values of a namespace. -/
abbrev Namespace := Fields

/-- Why a counter has no rate. -/
inductive RateError where
  /-- There is no earlier measurement. -/
  | initialized
  /-- Time has not gone on since the last measurement. -/
  | noTimeDifference
  /-- The counter is lower than at the last measurement. -/
  | valueOverflow
deriving DecidableEq, Repr

/-- What is said when the counter `name` has no rate. -/
def RateError.message (name : String) : RateError → String
  | .initialized => s!"Initialized: '{name}'"
  | .noTimeDifference => s!"No time difference for '{name}'"
  | .valueOverflow => s!"Value overflow for '{name}'"

namespace Namespace

/-- The measurement that a stored value is: a list of a time and a count. -/
private def measurement? : Value → Option (Float × Float)
  | .list [time, count] => do pure (← time.float?, ← count.float?)
  | _ => none

/--
The rate of a counter since the last measurement. The new measurement takes the place of the last
one in any case.
-/
def rate (values : Namespace) (name : String) (time count : Float) :
    Except RateError Float × Namespace :=
  let stored := values.insert name (.list [.ofFloat time, .ofFloat count])
  let outcome :=
    match (values.get? name).bind measurement? with
    | none => .error .initialized
    | some (lastTime, lastCount) =>
      if time ≤ lastTime then .error .noTimeDifference
      else if count < lastCount then .error .valueOverflow
      else .ok ((count - lastCount) / (time - lastTime))
  (outcome, stored)

end Namespace

/-- The stored values of all services. -/
structure ValueStore where
  namespaces : SortedMap NamespaceKey Namespace

namespace ValueStore

/-- Nothing stored. -/
def empty : ValueStore := ⟨∅⟩

instance : EmptyCollection ValueStore := ⟨empty⟩
instance : Inhabited ValueStore := ⟨empty⟩

/-- What is stored under a key. -/
def get? (s : ValueStore) (key : NamespaceKey) : Option Namespace := s.namespaces.get? key

/-- A working copy of a namespace. -/
def workingCopy (s : ValueStore) (key : NamespaceKey) : Namespace := (s.get? key).getD ∅

/-- Puts a working copy back. -/
def commit (s : ValueStore) (key : NamespaceKey) (values : Namespace) : ValueStore :=
  ⟨if values.isEmpty then s.namespaces.erase key else s.namespaces.insert key values⟩

-- ==================================================== the stored form

/-- The stored form: a list of the keys and values of the namespaces that are not empty. -/
def toValue (s : ValueStore) : Value :=
  .list ((s.namespaces.entries.filter fun (_, values) => !values.isEmpty).map
    fun (key, values) => .ofPairs [("key", key.toValue), ("values", .ofFields values)])

/-- Reads the stored form of one namespace. -/
def decodeEntry : Decoder (NamespaceKey × Namespace) := fun d => do
  let slot ← Slot.ofDocument? .data ["key", "values"] d
  let key ← (slot "key").required NamespaceKey.decode
  let values ← (slot "values").required (Decoder.map Decoder.any)
  pure (key, values)

/-- Reads the stored form. -/
def decode : Decoder ValueStore := fun d =>
  (Decoder.list decodeEntry d).map fun entries => ⟨.ofList entries⟩

end ValueStore

end HostWatch
