/-
Time periods: for each weekday some ranges of the day, less the times at
which another period is active. A period that is not declared is active at
all times, and so is the built-in period `24X7`.
-/
import HostWatch.Decimal.Integer
import HostWatch.Instant
import HostWatch.Name
import HostWatch.Text.Blank
import HostWatch.Document.Decode

namespace HostWatch

/-- What is wrong with the configuration of a time period. -/
inductive PeriodError where
  | invalidRange (text : String)
  | unknownWeekday (period : PeriodName) (day : String)
deriving DecidableEq, Repr

/-- What is said of an error in the configuration of a time period. -/
def PeriodError.message : PeriodError → String
  | .invalidRange text => s!"invalid time range '{text}'"
  | .unknownWeekday period day => s!"time period {period}: unknown weekday '{day}'"

/-- A part of a day, from minute `start` until before minute `stop`. -/
structure TimeRange where
  start : Nat
  stop : Nat
deriving DecidableEq, Repr

namespace TimeRange

/-- The minute of the day that a clock shows; hour 24 has the minute 0 only. -/
def readClock? (s : List Char) : Option Nat := do
  let (hourText, minuteText) ← Text.splitFirst? ':' s
  let hours ← Decimal.readWord? hourText
  let minutes ← Decimal.readWord? minuteText
  if minutes ≥ 60 ∨ hours > 24 ∨ (hours = 24 ∧ minutes ≠ 0) then none
  else some (hours * 60 + minutes)

/-- The range between two clocks, the first of which is not the later one. -/
def read? (s : List Char) : Option TimeRange := do
  let (first, second) ← Text.splitFirst? '-' s
  let start ← readClock? (Text.trim first)
  let stop ← readClock? (Text.trim second)
  if start ≤ stop then some ⟨start, stop⟩ else none

/-- The range that a text denotes. -/
def parse (text : String) : Except PeriodError TimeRange :=
  match read? text.toList with
  | some range => .ok range
  | none => .error (.invalidRange text)

/-- Whether a minute lies in a range. -/
def contains (r : TimeRange) (minute : Nat) : Bool := r.start ≤ minute && minute < r.stop

end TimeRange

/-- A time period as it is configured. -/
structure PeriodSpec where
  label : Option String := none
  /-- The ranges of each weekday. -/
  days : SortedMap String (List String) := ∅
  exclude : List PeriodName := []

namespace PeriodSpec

/-- Reads the configuration of a time period. -/
def decode (dialect : Dialect) : Decoder PeriodSpec := fun d => do
  let slot ← Slot.ofDocument? dialect ["alias", "days", "exclude"] d
  let text := Decoder.text
  let label ← (slot "alias").withDefault none text.optional
  let days ← (slot "days").withDefault ∅ (Decoder.map (Decoder.list text))
  let exclude ← (slot "exclude").withDefault [] (Decoder.list text)
  pure { label, days, exclude }

/-- The configuration of a time period as a value. -/
def toValue (s : PeriodSpec) : Value :=
  .ofPairs [("alias", .ofText? s.label), ("days", .ofFields (s.days.map fun _ => Value.ofTexts)),
    ("exclude", .ofTexts s.exclude)]

end PeriodSpec

/-- A time period. -/
structure Period where
  ranges : List (Weekday × TimeRange)
  exclude : List PeriodName
deriving DecidableEq, Repr

namespace Period

/-- The ranges of one weekday. -/
def ofDay (name : PeriodName) (day : String × List String) :
    Except PeriodError (List (Weekday × TimeRange)) :=
  match Weekday.ofName? day.1 with
  | none => .error (.unknownWeekday name day.1)
  | some weekday => day.2.mapM fun text => (TimeRange.parse text).map (weekday, ·)

/-- The period that a configuration describes. -/
def ofSpec (name : PeriodName) (spec : PeriodSpec) : Except PeriodError Period :=
  (spec.days.entries.mapM (ofDay name)).map fun ranges => ⟨ranges.flatten, spec.exclude⟩

/-- Whether a moment lies in one of the ranges of its weekday. -/
def covers (p : Period) (t : Instant) : Bool :=
  p.ranges.any fun (weekday, range) => weekday == t.weekday && range.contains t.minuteOfDay

end Period

/-- The declared time periods. -/
abbrev Periods := SortedMap PeriodName Period

namespace Periods

/-- The name of the period that is always active. -/
def always : PeriodName := "24X7"

/-- The periods that a configuration describes. -/
def ofSpecs (specs : SortedMap PeriodName PeriodSpec) : Except PeriodError Periods :=
  (specs.entries.mapM fun (name, spec) => (Period.ofSpec name spec).map (name, ·)).map
    SortedMap.ofList

/-- The declared periods that are not under way. -/
def fresh (periods : Periods) (chain : List PeriodName) : List PeriodName :=
  periods.keys.filter (· ∉ chain)

theorem fresh_length_le (periods : Periods) {chain left : List PeriodName}
    (h : ∀ name ∈ chain, name ∈ left) :
    (periods.fresh left).length ≤ (periods.fresh chain).length := by
  have hsub : periods.fresh left
      = (periods.fresh chain).filter (· ∉ left) := by
    unfold fresh
    rw [List.filter_filter]
    refine List.filter_congr fun name _ => ?_
    by_cases hleft : name ∈ left
    · simp [hleft]
    · have hchain : name ∉ chain := fun hmem => hleft (h name hmem)
      simp [hleft, hchain]
  rw [hsub]
  exact List.length_filter_le ..

theorem fresh_length_lt {periods : Periods} {chain : List PeriodName}
    {name : PeriodName} {period : Period}
    (hdeclared : periods.get? name = some period) (hchain : name ∉ chain) :
    (periods.fresh (name :: chain)).length < (periods.fresh chain).length := by
  have hsub : periods.fresh (name :: chain)
      = (periods.fresh chain).filter (· ≠ name) := by
    unfold fresh
    rw [List.filter_filter]
    refine List.filter_congr fun other _ => ?_
    simp
  have hkey : name ∈ periods.keys :=
    List.mem_map.mpr ⟨(name, period),
      (SortedMap.mem_entries_iff periods name period).mpr hdeclared, rfl⟩
  rw [hsub, List.length_filter_lt_length_iff_exists]
  exact ⟨name, List.mem_filter.mpr ⟨hkey, by simpa using hchain⟩, by simp⟩

/--
What is found out about a period while the periods of `chain` are under way: whether it is active,
and which periods are under way afterwards.
-/
structure Answer (chain : List PeriodName) where
  active : Bool
  left : List PeriodName
  /-- Nothing that was under way before has been given up. -/
  kept : ∀ name ∈ chain, name ∈ left

namespace Answer

/-- An answer that needs no other period. -/
def plain (active : Bool) (chain : List PeriodName) : Answer chain :=
  ⟨active, chain, fun _ h => h⟩

/-- The same answer, given by one that was found out first. -/
def after {chain : List PeriodName} (first : Answer chain) (later : Answer first.left) :
    Answer chain :=
  ⟨later.active, later.left, fun name h => later.kept name (first.kept name h)⟩

/-- The answer about a period that has been under way for it, and no longer is. -/
def leave {chain : List PeriodName} {name : PeriodName} (inner : Answer (name :: chain))
    (h : name ∉ chain) : Answer chain where
  active := inner.active
  left := inner.left.erase name
  kept other hother := by
    have hne : other ≠ name := fun heq => h (heq ▸ hother)
    rw [List.mem_erase_of_ne hne]
    exact inner.kept other (List.mem_cons_of_mem _ hother)

/-- The opposite answer. -/
def negate {chain : List PeriodName} (answer : Answer chain) : Answer chain :=
  { answer with active := !answer.active }

end Answer

mutual

/--
Whether a period is active. The periods that are being asked about are put on the chain for as long
as it takes; a period that excludes itself, directly or through others, counts as inactive there.
-/
def ask (periods : Periods) (t : Instant) (chain : List PeriodName) (name : PeriodName) :
    Answer chain :=
  if name = always then .plain true chain
  else
    match _h : periods.get? name with
    | none => .plain true chain
    | some period =>
      if hchain : name ∈ chain then .plain false chain
      else
        let inner : Answer (name :: chain) :=
          if period.covers t then (askAny periods t (name :: chain) period.exclude).negate
          else .plain false (name :: chain)
        inner.leave hchain
termination_by ((periods.fresh chain).length, 0)
decreasing_by
  exact .left _ _ (fresh_length_lt _h hchain)

/-- Whether one of some excluded periods is declared and active; the first such one ends it. -/
def askAny (periods : Periods) (t : Instant) (chain : List PeriodName) :
    List PeriodName → Answer chain
  | [] => .plain false chain
  | other :: rest =>
    if periods.contains other then
      let first := ask periods t chain other
      if first.active then first else first.after (askAny periods t first.left rest)
    else askAny periods t chain rest
termination_by excluded => ((periods.fresh chain).length, excluded.length + 1)
decreasing_by
  · exact .right _ (by omega)
  · rcases Nat.lt_or_eq_of_le (fresh_length_le periods first.kept) with h | h
    · exact .left _ _ h
    · rw [h]
      exact .right _ (by simp)
  · exact .right _ (by simp)

end

/-- Whether a period is active at a moment. -/
def isActive (periods : Periods) (t : Instant) (name : PeriodName) : Bool :=
  (periods.ask t [] name).active

end Periods

/-- Tells which time periods are active. -/
abbrev PeriodOracle := PeriodName → Bool

/-- Whether something that has a time period is outside of it. -/
def outsidePeriod (oracle : PeriodOracle) : Option PeriodName → Bool
  | none => false
  | some period => !oracle period

end HostWatch
