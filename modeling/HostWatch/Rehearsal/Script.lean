/-
Scripts for made-up check functions: what such a function remembers, and
how it ends, perhaps depending on the sections that it is given.

A script can be written as a record. Its fields are looked at in a fixed
order, and the first one that says how to go on decides.
-/
import HostWatch.Check.Plugin
import HostWatch.Decimal.Reader
import HostWatch.Value.Lenient

namespace HostWatch

/-- A change of what a service remembers. -/
inductive StoreChange where
  | set (name : String) (v : Value)
  | remove (name : String)

namespace StoreChange

/-- What is remembered after a change. -/
def apply (values : Namespace) : StoreChange → Namespace
  | set name v => values.insert name v
  | remove name => values.erase name

/-- Reads a change. -/
def ofValue? : Value → Option StoreChange
  | .list [.text "set", .text name, v] => some (set name v)
  | .list [.text "remove", .text name] => some (remove name)
  | _ => none

end StoreChange

/-- What a made-up check function does. -/
inductive Script where
  /-- It changes what is remembered and goes on. -/
  | remember (changes : List StoreChange) (next : Script)
  /-- It goes on as the first cell of a section tells. -/
  | byCell (source : ParsedName) (next : String → Script)
  /-- It yields the rates of the counters in a section. -/
  | rates (source : ParsedName)
  /-- It tells which service it is called for. -/
  | introduce
  /-- It ends. -/
  | finish (ending : Ending)

namespace Script

-- ==================================================== running

/-- The first cell of a table, or a text as a whole; empty if there is neither. -/
def firstCell : Option Value → String
  | some (.text s) => s
  | some (.list (.list (.text s :: _) :: _)) => s
  | _ => ""

/-- A counter in a row of a section: a name, a time and a count. -/
private def readCounter? (row : Value) : Option (String × Float × Float) := do
  let cells := row.items?.getD []
  let number (i : Nat) : Option Float :=
    (cells[i]?.bind Value.text?).bind fun cell => Decimal.readFloat? cell.toList
  let name := (cells[0]?.bind Value.text?).getD ""
  pure (name, ← number 1, ← number 2)

/-- The outputs for the counters in some rows; `done` are those of the rows before. -/
def counterRates (values : Namespace) (done : List CheckOutput) :
    List Value → Ending × Namespace
  | [] => (.yielded done, values)
  | row :: rest =>
    match readCounter? row with
    | none => (.failed "bad counter", values)
    | some (name, time, count) =>
      match values.rate name time count with
      | (.error e, values) => (.ignored (some (e.message name)), values)
      | (.ok rate, values) =>
        let text := Decimal.fixedText 2 rate
        counterRates values (done ++ [.ofSummary .ok s!"{name}: {text}/s", .ofValue name rate]) rest

/-- What a script leaves behind; `content` is what the sections hold. -/
def run (content : ParsedName → Option Value) (service : CurrentService) (values : Namespace) :
    Script → CheckRun
  | remember changes next => run content service (changes.foldl StoreChange.apply values) next
  | byCell source next => run content service values (next (firstCell (content source)))
  | rates source =>
    let (ending, values) := counterRates values [] (((content source).bind Value.items?).getD [])
    { ending, values }
  | introduce => { ending := .yielded [.ofSummary .ok service.label], values }
  | finish ending => { ending, values }

-- ==================================================== reading

open Lenient

/-- Reads a metric with its levels and bounds. -/
def metricOf (v : Value) : Metric :=
  let (warn, crit) := match items v "levels" with
    | [w, c] => (some ((double? w).getD 0), some ((double? c).getD 0))
    | _ => (none, none)
  { name := text v "metric", value := double v "value", warn, crit
    min := (given? v "min").bind double?, max := (given? v "max").bind double? }

/-- The state with a number; everything else counts as fine. -/
def stateOf : Value → State
  | .int n => (State.ofCode? n.toNat).getD .ok
  | _ => .ok

/-- Reads an output: a metric, a notice, or a sub-result. -/
def outputOf (v : Value) : CheckOutput :=
  let state := stateOf (field v "state")
  if has v "metric" then .metric (metricOf v)
  else if has v "notice" then .notice state (text v "notice")
  else
    let summary := text v "summary"
    .result { state, summary, details := (text? v "details").getD summary }

/-- The message of a break-off, if a record asks for one. -/
def crashOf? (v : Value) : Option String :=
  if has v "panic" then some (text v "panic")
  else if has v "panic_any" then some "unknown panic"
  else if has v "panic_static" then some "static panic"
  else none

/-- Reads how a function ends. -/
def endingOf (v : Value) : Ending :=
  if has v "ignore" then .ignored (text? v "ignore")
  else if has v "timeout" then .timedOut
  else if has v "failed" then .failed (text v "failed")
  else
    match crashOf? v with
    | some message => .crashed message
    | none => .yielded ((items v "outputs").map outputOf)

/-- Reads a script. -/
def ofValue (v : Value) : Script :=
  let action : Script :=
    match _h : v.field? "then" with
    | some next => ofValue next
    | none =>
      if has v "case" then
        let otherwise : Script :=
          match _h : v.field? "else" with
          | some script => ofValue script
          | none => .finish (.yielded [])
        .byCell (text v "case") fun cell =>
          match _h₁ : v.field? "of" with
          | some cases =>
            match _h₂ : cases.field? cell with
            | some script => ofValue script
            | none => otherwise
          | none => otherwise
      else if has v "counter" then .rates (text v "counter")
      else if has v "who" then .introduce
      else .finish (endingOf v)
  .remember ((items v "store").filterMap StoreChange.ofValue?) action
termination_by sizeOf v
decreasing_by
  · exact sizeOf_field?_lt _h
  · exact sizeOf_field?_lt _h
  · exact Nat.lt_trans (sizeOf_field?_lt _h₂) (sizeOf_field?_lt _h₁)

end Script

end HostWatch
