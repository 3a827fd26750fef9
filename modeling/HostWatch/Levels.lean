/-
Levels for measured values: a value that reaches the first of them is a
warning, one that reaches the second is critical.
-/
import HostWatch.Decimal.Plain
import HostWatch.State

namespace HostWatch

/-- The levels from which a value is a warning and critical. -/
structure Levels where
  warn : Float
  crit : Float
deriving DecidableEq

namespace Levels

/-- The state of a value. -/
def state (levels : Option Levels) (value : Float) : State :=
  match levels with
  | none => .ok
  | some l => if l.crit ≤ value then .crit else if l.warn ≤ value then .warn else .ok

/-- What is added to the text of a value whose state is not fine. -/
def remark (levels : Option Levels) (state : State) : String :=
  match state, levels with
  | .ok, _ | _, none => ""
  | _, some l =>
    s!" (warn/crit at {Decimal.fixedText 2 l.warn}/{Decimal.fixedText 2 l.crit})"

end Levels

end HostWatch
