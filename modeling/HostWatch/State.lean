/-
Monitoring states. Their numbers 0 to 3 are an outside contract; which of
two states is worse is decided by a rank of its own.
-/
import HostWatch.Text.Split
import HostWatch.Document.Decode

namespace HostWatch

/-- The state of a service, a node or a host. -/
inductive State where
  | ok
  | warn
  | crit
  | unknown
deriving DecidableEq, Repr, Inhabited

namespace State

/-- All states by increasing number. -/
def all : List State := [ok, warn, crit, unknown]

/-- The number that stands for a state outside. -/
def code : State → Nat
  | ok => 0
  | warn => 1
  | crit => 2
  | unknown => 3

/-- The state with a number. -/
def ofCode? : Nat → Option State
  | 0 => some ok
  | 1 => some warn
  | 2 => some crit
  | 3 => some unknown
  | _ => none

/-- What is said of a number that no state has. -/
def invalidCode (n : Nat) : String := s!"invalid monitoring state: {n}"

/-- How bad a state is. -/
def rank : State → Nat
  | ok => 0
  | warn => 1
  | crit => 2
  | unknown => 3

/-- The worse of two states. -/
def worst (a b : State) : State := if a.rank < b.rank then b else a

/-- The better of two states. -/
def best (a b : State) : State := if b.rank < a.rank then b else a

/-- The worst of some states, if there are any. -/
def worstOf? : List State → Option State
  | [] => none
  | s :: rest => some (rest.foldl worst s)

/-- The best of some states, if there are any. -/
def bestOf? : List State → Option State
  | [] => none
  | s :: rest => some (rest.foldl best s)

/-- The worst of some states, and `ok` when there are none. -/
def worstOrOk (states : List State) : State := states.foldl worst ok

/-- The word for a state. -/
def name : State → String
  | ok => "OK"
  | warn => "WARN"
  | crit => "CRIT"
  | unknown => "UNKNOWN"

/-- What marks the part of a text that is in this state. -/
def marker : State → String
  | ok => ""
  | warn => "(!)"
  | crit => "(!!)"
  | unknown => "(?)"

/-- A state as a value: its number. -/
def toValue (s : State) : Value := .int s.code

/-- Reads a state from its number. -/
def decode : Decoder State := fun d => (Decoder.nat 255 d).bind ofCode?

theorem rank_worst (a b : State) : (a.worst b).rank = max a.rank b.rank := by
  cases a <;> cases b <;> rfl

end State

/-- A text with a marker at its end, unless the marker occurs in it already. -/
def withMarker (text marker : String) : String :=
  if Text.hasInfix marker.toList text.toList then text else text ++ marker

end HostWatch
