/-
Moments and what a calendar says of them.
-/
import HostWatch.Decimal.Integer
import HostWatch.Text.Letter

namespace HostWatch

/-- The days of the week. -/
inductive Weekday where
  | monday
  | tuesday
  | wednesday
  | thursday
  | friday
  | saturday
  | sunday
deriving DecidableEq, Repr, Inhabited

namespace Weekday

/-- The days of the week in order. -/
def all : List Weekday := [monday, tuesday, wednesday, thursday, friday, saturday, sunday]

/-- The name of a weekday. -/
def name : Weekday → String
  | monday => "monday"
  | tuesday => "tuesday"
  | wednesday => "wednesday"
  | thursday => "thursday"
  | friday => "friday"
  | saturday => "saturday"
  | sunday => "sunday"

/-- The weekday with a name, in whatever case it is written. -/
def ofName? (s : String) : Option Weekday :=
  all.find? fun day => day.name.toList == Text.lower s.toList

/-- The weekday that comes a number of days after a Monday. -/
def ofIndex (n : Nat) : Weekday := all.getD (n % 7) monday

end Weekday

/-- A moment, in seconds since the start of 1970, of the clock that periods go by. -/
structure Instant where
  seconds : Int
deriving DecidableEq, Repr, Inhabited

namespace Instant

/-- The number of the day, counted from the first of 1970, a Thursday. -/
def day (t : Instant) : Int := t.seconds / 86400

/-- The weekday. -/
def weekday (t : Instant) : Weekday := .ofIndex ((t.day + 3) % 7).toNat

/-- The minutes since midnight. -/
def minuteOfDay (t : Instant) : Nat := (t.seconds % 86400 / 60).toNat

/-- A date of the calendar that is in use everywhere. -/
structure Date where
  year : Int
  month : Nat
  day : Nat
deriving DecidableEq, Repr

/--
The date. Days are counted from the first of March of the year 0, so that a leap day is the last
day of its year; 146097 of them make 400 years.
-/
def date (t : Instant) : Date :=
  let count := t.day + 719468
  let era := count / 146097
  let dayOfEra := (count % 146097).toNat
  let yearOfEra :=
    (dayOfEra - dayOfEra / 1460 + dayOfEra / 36524 - dayOfEra / 146096) / 365
  let dayOfYear := dayOfEra - (365 * yearOfEra + yearOfEra / 4 - yearOfEra / 100)
  let monthFromMarch := (5 * dayOfYear + 2) / 153
  let month := if monthFromMarch < 10 then monthFromMarch + 3 else monthFromMarch - 9
  { year := era * 400 + yearOfEra + (if month ≤ 2 then 1 else 0)
    month
    day := dayOfYear - (153 * monthFromMarch + 2) / 5 + 1 }

/-- The moment as a text: date and clock of the zone without an offset. -/
def text (t : Instant) : String :=
  let d := t.date
  let minute := t.minuteOfDay
  let second := (t.seconds % 60).toNat
  s!"{Decimal.padded 4 d.year.toNat}-{Decimal.padded 2 d.month}-{Decimal.padded 2 d.day}T" ++
    s!"{Decimal.padded 2 (minute / 60)}:{Decimal.padded 2 (minute % 60)}:{Decimal.padded 2 second}Z"

end Instant

end HostWatch
