/-
The rates of a counter over a history.

A counter is measured now and then, by a namespace that other values live in
too and that is put back and opened again between the measurements. Whatever
becomes of a call, its measurement is stored before anything is said about it
(`get?_step_of_measured`), and nothing but a call under the same name takes it
away again (`get?_step_of_silent`). So a call is answered relative to the call
just before it under that name, ignored or not: that is the relation `Follows`
between neighbours, and `isChain_calls` carries it along a history.

Over times that go on, a call that follows another one is ignored only when
the counter has gone back, so what is ignored is the first call and one more
for each time that it does (`countP_isIgnored`). This is where the order of
doubles is needed: of two of which one is less, the other is not less or equal,
which leaves out by itself what is not a number (`Measurement.Earlier.not_le`).
-/
import HostWatch.Proofs.ValueStore
import Mathlib.Data.List.Chain

namespace HostWatch

-- ==================================================== measurements

/-- Comparing two doubles the other way round gives the opposite answer. -/
private theorem compare_swap (a b : Float.Model.UnpackedFloat) :
    Float.Model.UnpackedFloat.compare b a
      = (Float.Model.UnpackedFloat.compare a b).map Ordering.swap := by
  -- numbers of one sign are told apart by exponent, then by mantissa
  have hfinite : ∀ (m m' : Nat) (e e' : Int),
      (compare e' e).then (compare m' m)
        = ((compare e e').then (compare m m')).swap := by
    intro m m' e e'
    rw [Ordering.swap_then, ← Std.OrientedCmp.eq_swap,
      ← Std.OrientedCmp.eq_swap]
  rcases a with (_ | _) | _ | (_ | _) | ⟨(_ | _), m, e, h⟩ <;>
    rcases b with (_ | _) | _ | (_ | _) | ⟨(_ | _), m', e', h'⟩ <;>
    first
      | rfl
      | exact congrArg some (hfinite ..)
      | exact congrArg (some ∘ Ordering.swap) (hfinite ..)

/-- What a counter was at some time. -/
structure Measurement where
  time : Float
  count : Float

namespace Measurement

/-- Time and count are finite numbers. -/
def IsFinite (m : Measurement) : Prop :=
  m.time.isFinite = true ∧ m.count.isFinite = true

instance (m : Measurement) : Decidable m.IsFinite :=
  inferInstanceAs (Decidable (_ ∧ _))

/-- The time of the first is less than that of the second. -/
def Earlier (last next : Measurement) : Prop := last.time < next.time

instance : DecidableRel Earlier := fun last next =>
  inferInstanceAs (Decidable (last.time < next.time))

/-- Of two times of which one is less, the other is not less or equal. -/
theorem Earlier.not_le {last next : Measurement} (h : last.Earlier next) :
    ¬ next.time ≤ last.time := by
  have hlt : last.time.toModel.unpack.compare next.time.toModel.unpack
      = some .lt :=
    beq_iff_eq.mp (of_decide_eq_true (show last.time.lt next.time = true from h))
  intro hle
  have hany : (next.time.toModel.unpack.compare last.time.toModel.unpack).any
      (·.isLE) = true :=
    of_decide_eq_true (show next.time.le last.time = true from hle)
  rw [compare_swap, hlt] at hany
  cases hany

/-- How often a counter goes back from one measurement to the next. -/
def decreases (history : List Measurement) : Nat :=
  (history.zip history.tail).countP fun (last, next) => next.count < last.count

theorem decreases_cons_cons (last next : Measurement)
    (rest : List Measurement) :
    decreases (last :: next :: rest)
      = decreases (next :: rest) + if next.count < last.count then 1 else 0 := by
  unfold decreases
  rw [List.tail_cons, List.zip_cons_cons, List.countP_cons, List.tail_cons]
  simp only [decide_eq_true_eq]

/-- What a measurement is stored as. -/
def stored (m : Measurement) : Value := .list [.float m.time, .float m.count]

end Measurement

-- ==================================================== calls

/-- A call for the rate of a counter and what it was answered. -/
structure RateCall where
  measurement : Measurement
  answer : Except RateError Float

namespace RateCall

/-- The results of the check are to be ignored this time. -/
def isIgnored (call : RateCall) : Bool :=
  match call.answer with
  | .error _ => true
  | .ok _ => false

/-- A call is answered relative to the measurement of the one before it. -/
structure Follows (last next : RateCall) : Prop where
  isIgnored_iff : next.isIgnored = true
    ↔ next.measurement.time ≤ last.measurement.time
      ∨ next.measurement.count < last.measurement.count
  answer_eq : next.isIgnored = false →
    next.answer = .ok ((next.measurement.count - last.measurement.count)
      / (next.measurement.time - last.measurement.time))

/-- Over times that go on, a call is ignored exactly if the counter has gone
back. -/
theorem Follows.isIgnored_iff_of_earlier {last next : RateCall}
    (h : last.Follows next) (htime : last.measurement.Earlier next.measurement) :
    next.isIgnored = true ↔ next.measurement.count < last.measurement.count :=
  h.isIgnored_iff.trans (or_iff_right htime.not_le)

/-- Over times that go on, of the calls behind the first one as many are
ignored as the counter has gone back. -/
theorem countP_tail_isIgnored {calls : List RateCall}
    (hfollows : calls.IsChain Follows)
    (htimes : (calls.map (·.measurement)).IsChain Measurement.Earlier) :
    calls.tail.countP isIgnored
      = Measurement.decreases (calls.map (·.measurement)) := by
  induction calls with
  | nil => rfl
  | cons last rest ih =>
      cases rest with
      | nil => rfl
      | cons next rest =>
          rw [List.isChain_cons_cons] at hfollows
          rw [List.map_cons, List.map_cons, List.isChain_cons_cons] at htimes
          have hrest := ih hfollows.2 htimes.2
          have hnext := hfollows.1.isIgnored_iff_of_earlier htimes.1
          rw [List.tail_cons, List.map_cons] at hrest
          rw [List.tail_cons, List.countP_cons, List.map_cons, List.map_cons,
            Measurement.decreases_cons_cons, hrest]
          simp only [hnext]

end RateCall

-- ==================================================== what a namespace answers

namespace Namespace

variable {values : Namespace} {name : String} {m : Measurement}

/-- A call leaves its measurement behind. -/
theorem get?_rate_self (hm : m.IsFinite) :
    (values.rate name m.time m.count).2.get? name = some m.stored := by
  have hstored : (Value.list [.ofFloat m.time, .ofFloat m.count]) = m.stored := by
    unfold Value.ofFloat
    rw [if_pos hm.1, if_pos hm.2]
    rfl
  unfold rate
  exact (SortedMap.get?_insert ..).trans ((if_pos rfl).trans (congrArg some hstored))

/-- A call leaves all names but its own alone. -/
theorem get?_rate_of_ne {other : String} (h : other ≠ name) (time count : Float) :
    (values.rate name time count).2.get? other = values.get? other := by
  unfold rate
  exact (SortedMap.get?_insert ..).trans (if_neg h)

/-- A call under a name with some measurement. -/
def rateCall (values : Namespace) (name : String) (m : Measurement) : RateCall :=
  ⟨m, (values.rate name m.time m.count).1⟩

/-- Where nothing is stored, a call is ignored. -/
theorem isIgnored_rateCall_of_none (h : values.get? name = none)
    (m : Measurement) : (values.rateCall name m).isIgnored = true := by
  unfold rateCall rate
  rw [h]
  rfl

/-- Where a measurement is stored, a call is answered relative to it. -/
theorem rate_of_stored {last : Measurement}
    (h : values.get? name = some last.stored) (time count : Float) :
    (values.rate name time count).1
      = if time ≤ last.time then .error .noTimeDifference
        else if count < last.count then .error .valueOverflow
        else .ok ((count - last.count) / (time - last.time)) := by
  unfold rate
  rw [h]
  rfl

/-- Where the measurement of a call is stored, the next call follows it. -/
theorem follows_rateCall {last : RateCall}
    (h : values.get? name = some last.measurement.stored) (m : Measurement) :
    last.Follows (values.rateCall name m) := by
  unfold rateCall
  rw [rate_of_stored h]
  by_cases htime : m.time ≤ last.measurement.time
  · rw [if_pos htime]
    exact ⟨iff_of_true rfl (.inl htime), nofun⟩
  · rw [if_neg htime]
    by_cases hcount : m.count < last.measurement.count
    · rw [if_pos hcount]
      exact ⟨iff_of_true rfl (.inr hcount), nofun⟩
    · rw [if_neg hcount]
      exact ⟨iff_of_false nofun (not_or.mpr ⟨htime, hcount⟩), fun _ => rfl⟩

end Namespace

-- ==================================================== histories

/-- What happens to the namespace with a key while it is open. -/
inductive NamespaceEvent (key : NamespaceKey) where
  /-- The rate of a counter is asked for, with a measurement. -/
  | rate (name : String) (m : Measurement)
  | set (name : String) (value : Value)
  | remove (name : String)
  /-- The copy is put back, copies of other namespaces are, and a new one is
  taken. -/
  | reopen (others : List (NamespaceKey × Namespace))
      (hothers : key ∉ others.map (·.1))

namespace NamespaceEvent

variable {key : NamespaceKey}

/-- The name that an event is about. -/
def name? : NamespaceEvent key → Option String
  | rate name _ => some name
  | set name _ => some name
  | remove name => some name
  | reopen .. => none

/-- The measurement of a counter that an event is. -/
def measurement? (name : String) : NamespaceEvent key → Option Measurement
  | rate other m => if other = name then some m else none
  | _ => none

/-- The measurements of a counter in a history. -/
def measurements (name : String) (events : List (NamespaceEvent key)) :
    List Measurement :=
  events.filterMap (measurement? name)

/-- Nothing is done under the name of a counter but measuring it, in numbers. -/
def OnlyMeasures (name : String) : NamespaceEvent key → Prop
  | rate other m => other = name → m.IsFinite
  | set other _ => other ≠ name
  | remove other => other ≠ name
  | reopen .. => True

instance (name : String) : (e : NamespaceEvent key) → Decidable (e.OnlyMeasures name)
  | rate other m => inferInstanceAs (Decidable (other = name → m.IsFinite))
  | set other _ => inferInstanceAs (Decidable (other ≠ name))
  | remove other => inferInstanceAs (Decidable (other ≠ name))
  | reopen .. => .isTrue trivial

theorem measurement?_eq_some_iff {name : String} {m : Measurement}
    {e : NamespaceEvent key} : e.measurement? name = some m ↔ e = rate name m := by
  cases e with
  | rate other m' =>
      rw [measurement?, Option.ite_none_right_eq_some, Option.some.injEq,
        rate.injEq]
  | set => exact iff_of_false nofun nofun
  | remove => exact iff_of_false nofun nofun
  | reopen => exact iff_of_false nofun nofun

/-- An event about the name of a counter is a measurement of it. -/
theorem exists_measurement?_of_name? {name : String} {e : NamespaceEvent key}
    (he : e.OnlyMeasures name) (hname : e.name? = some name) :
    ∃ m, e.measurement? name = some m := by
  cases e with
  | rate other m =>
      obtain rfl : other = name := Option.some.inj hname
      exact ⟨m, measurement?_eq_some_iff.mpr rfl⟩
  | set other value => exact absurd (Option.some.inj hname) he
  | remove other => exact absurd (Option.some.inj hname) he
  | reopen => cases hname

end NamespaceEvent

/-- The values of all services, and the copy that is open of one namespace. -/
structure OpenNamespace where
  store : ValueStore
  values : Namespace

namespace OpenNamespace

open NamespaceEvent (measurement? measurements)

variable {key : NamespaceKey} {name : String} {s : OpenNamespace}
  {e : NamespaceEvent key} {events : List (NamespaceEvent key)}

/-- What an event makes of a namespace. -/
def step (s : OpenNamespace) : NamespaceEvent key → OpenNamespace
  | .rate name m => { s with values := (s.values.rate name m.time m.count).2 }
  | .set name value => { s with values := s.values.insert name value }
  | .remove name => { s with values := s.values.erase name }
  | .reopen others _ =>
    let store := (s.store.commit key s.values).commitAll others
    { store, values := store.workingCopy key }

/-- The calls for the rate of a counter in a history, in their order. -/
def calls (name : String) : OpenNamespace → List (NamespaceEvent key) → List RateCall
  | _, [] => []
  | s, e :: rest =>
    ((e.measurement? name).map (s.values.rateCall name)).toList
      ++ calls name (s.step e) rest

/-- There is one call for each measurement. -/
theorem map_measurement_calls :
    (calls name s events).map (·.measurement) = measurements name events := by
  unfold measurements
  induction events generalizing s with
  | nil => rfl
  | cons e rest ih =>
      unfold calls
      rw [List.map_append, ih]
      cases hm : e.measurement? name with
      | none => exact (List.filterMap_cons_none hm).symm
      | some m => exact (List.filterMap_cons_some hm).symm

/-- A copy that is taken anew holds what was in the one that was put back. -/
theorem values_step_reopen {others : List (NamespaceKey × Namespace)}
    (h : key ∉ others.map (·.1)) :
    (s.step (.reopen others h)).values = s.values := by
  let back := s.store.commit key s.values
  calc (s.step (.reopen others h)).values
    _ = (back.commitAll others).workingCopy key := rfl
    _ = back.workingCopy key :=
        ValueStore.workingCopy_congr (ValueStore.get?_commitAll_of_not_mem h)
    _ = s.values := ValueStore.workingCopy_commit ..

/-- No event changes another entry than that of its name. -/
theorem get?_step_of_ne (s : OpenNamespace) {other : String}
    (hname : e.name? ≠ some other) :
    (s.step e).values.get? other = s.values.get? other := by
  have hne : ∀ {name}, e.name? = some name → other ≠ name := by
    rintro name h rfl
    exact hname h
  cases e with
  | rate name m => exact Namespace.get?_rate_of_ne (hne rfl) ..
  | set name value =>
      exact (SortedMap.get?_insert ..).trans (if_neg (hne rfl))
  | remove name =>
      exact (SortedMap.get?_erase ..).trans (if_neg (hne rfl))
  | reopen others h => rw [values_step_reopen h]

/-- What is no measurement of a counter keeps its last one. -/
theorem get?_step_of_silent (he : e.OnlyMeasures name)
    (hm : e.measurement? name = none) :
    (s.step e).values.get? name = s.values.get? name := by
  refine get?_step_of_ne s fun hname => ?_
  obtain ⟨m, hsome⟩ := NamespaceEvent.exists_measurement?_of_name? he hname
  rw [hm] at hsome
  cases hsome

/-- A measurement of a counter takes the place of its last one. -/
theorem get?_step_of_measured {m : Measurement} (he : e.OnlyMeasures name)
    (hm : e.measurement? name = some m) :
    (s.step e).values.get? name = some m.stored := by
  obtain rfl := NamespaceEvent.measurement?_eq_some_iff.mp hm
  exact Namespace.get?_rate_self (he rfl)

/-- After a call each further one follows the one before it. -/
theorem isChain_cons_calls {last : RateCall} (hevents : ∀ e ∈ events, e.OnlyMeasures name)
    (hlast : s.values.get? name = some last.measurement.stored) :
    (last :: calls name s events).IsChain RateCall.Follows := by
  induction events generalizing s last with
  | nil => exact List.isChain_singleton _
  | cons e rest ih =>
      obtain ⟨he, hrest⟩ := List.forall_mem_cons.mp hevents
      unfold calls
      cases hm : e.measurement? name with
      | none => exact ih hrest ((get?_step_of_silent he hm).trans hlast)
      | some m =>
          exact List.isChain_cons_cons.mpr ⟨Namespace.follows_rateCall hlast m,
            ih hrest (get?_step_of_measured he hm)⟩

/-- Where nothing has been measured yet, the first call is ignored and each
further one follows the one before it. -/
theorem isChain_calls (hevents : ∀ e ∈ events, e.OnlyMeasures name)
    (hstart : s.values.get? name = none) :
    (∀ first ∈ (calls name s events).head?, first.isIgnored = true)
      ∧ (calls name s events).IsChain RateCall.Follows := by
  induction events generalizing s with
  | nil => exact ⟨nofun, List.isChain_nil⟩
  | cons e rest ih =>
      obtain ⟨he, hrest⟩ := List.forall_mem_cons.mp hevents
      unfold calls
      cases hm : e.measurement? name with
      | none => exact ih hrest ((get?_step_of_silent he hm).trans hstart)
      | some m =>
          refine ⟨?_, isChain_cons_calls hrest (get?_step_of_measured he hm)⟩
          intro first hfirst
          obtain rfl := Option.some.inj hfirst
          exact Namespace.isIgnored_rateCall_of_none hstart m

/-- Over times that go on, the first call is ignored and one more each time
that the counter goes back. -/
theorem countP_isIgnored (hevents : ∀ e ∈ events, e.OnlyMeasures name)
    (hstart : s.values.get? name = none) (hsome : measurements name events ≠ [])
    (htimes : (measurements name events).IsChain Measurement.Earlier) :
    (calls name s events).countP RateCall.isIgnored
      = 1 + Measurement.decreases (measurements name events) := by
  obtain ⟨hfirst, hchain⟩ := isChain_calls hevents hstart
  rw [← map_measurement_calls (s := s)] at hsome htimes ⊢
  cases hcalls : calls name s events with
  | nil =>
      rw [hcalls] at hsome
      exact absurd rfl hsome
  | cons first rest =>
      rw [hcalls] at hfirst hchain htimes
      rw [← RateCall.countP_tail_isIgnored hchain htimes, List.tail_cons,
        List.countP_cons_of_pos (hfirst first rfl), Nat.add_comm]

/-- Of the calls for the rate of a counter that is measured for the first time,
one for each measurement, the first one is ignored, and every other is
answered relative to the one just before it, whatever that one was answered and
whatever else happened in between. Over times that go on one call is ignored,
and one more each time that the counter goes back. Nothing that is done under
one name changes what is stored under another one. -/
theorem rates_of_history (hevents : ∀ e ∈ events, e.OnlyMeasures name)
    (hstart : s.values.get? name = none) :
    (calls name s events).map (·.measurement) = measurements name events
      ∧ (∀ first ∈ (calls name s events).head?, first.isIgnored = true)
      ∧ (calls name s events).IsChain RateCall.Follows
      ∧ (measurements name events ≠ [] →
          (measurements name events).IsChain Measurement.Earlier →
          (calls name s events).countP RateCall.isIgnored
            = 1 + Measurement.decreases (measurements name events))
      ∧ ∀ (s : OpenNamespace) (e : NamespaceEvent key) (other : String),
          e.name? ≠ some other →
          (s.step e).values.get? other = s.values.get? other := by
  obtain ⟨hfirst, hchain⟩ := isChain_calls hevents hstart
  exact ⟨map_measurement_calls, hfirst, hchain, countP_isIgnored hevents hstart,
    fun s _ _ hname => get?_step_of_ne s hname⟩

/-- A counter that starts again while its namespace is put back and opened, and
another value is set meanwhile. -/
def restartedCounter :
    List (NamespaceEvent ⟨"web01", ⟨"if", some "eth0"⟩, none⟩) :=
  [.rate "in" ⟨100, 1000⟩, .rate "in" ⟨110, 1500⟩, .reopen [] List.not_mem_nil,
    .set "out" .null, .rate "in" ⟨120, 10⟩, .rate "in" ⟨130, 110⟩]

/-- It is ignored when it is measured for the first time and when it has
started again. -/
theorem countP_isIgnored_restartedCounter :
    (calls "in" ⟨∅, ∅⟩ restartedCounter).countP RateCall.isIgnored = 2 := by
  have hmeasures : ∀ e ∈ restartedCounter, e.OnlyMeasures "in" := by decide +kernel
  obtain ⟨-, -, -, hcount, -⟩ :=
    rates_of_history (s := ⟨∅, ∅⟩) hmeasures (by decide +kernel)
  have htimes : (measurements "in" restartedCounter).IsChain
      Measurement.Earlier := by decide +kernel
  rw [hcount (by decide +kernel) htimes]
  decide +kernel

end OpenNamespace

end HostWatch
