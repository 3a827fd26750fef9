/-
Services that are checked at the same time, on one store and one set of keys.

Each of any number of threads makes the call for one service (`Job`): it takes
the key of the service, does the steps of the call, gives the key back and
makes an answer of the ending. Between any two steps of one thread the others
may do as many of theirs as they like, so all that can come of the threads is
what comes of the schedules that say whose turn it is (`Workers.run`). The
order in which the keys were taken is written down as it comes about.

Whatever is proved about a schedule is proved from `turn_cases`, which lists
what a turn can be, guards included. What a call does to its service and what
the service is to the call is said for each `Job`: each namespace, those on
nodes included, is under one key (`Job.lock_eq_of_owns`), and a check leaves
the services under other keys alone (`Job.agree_check`).
-/
import HostWatch.Proofs.Check.Containment
import HostWatch.Proofs.Check.Steps
import Mathlib.Data.Finset.Card
import Mathlib.Data.Finset.Image

namespace HostWatch

-- ==================================================== keys

namespace InvocationLocks

variable {locks locks' : InvocationLocks} {key : LockKey}

/-- A key can be taken exactly if nobody holds it. -/
theorem acquire?_isSome :
    (locks.acquire? key).isSome = true ↔ locks.holds key = false := by
  unfold acquire?
  cases locks.holds key <;> simp

/-- What is held after a key has been taken, which was free. -/
theorem acquire?_some (h : locks.acquire? key = some locks') :
    locks.holds key = false
      ∧ ∀ other, locks'.holds other = true
        ↔ other = key ∨ locks.holds other = true := by
  unfold acquire? at h
  cases hheld : locks.holds key with
  | true =>
      rw [hheld] at h
      cases h
  | false =>
      rw [hheld, if_neg (by decide)] at h
      cases h
      refine ⟨rfl, fun other => ?_⟩
      unfold holds SortedMap.contains
      simp only [SortedMap.get?_insert]
      by_cases hother : other = key <;> simp [hother]

/-- What is held after a key has been given back. -/
theorem holds_release (locks : InvocationLocks) (key other : LockKey) :
    (locks.release key).holds other = true
      ↔ other ≠ key ∧ locks.holds other = true := by
  unfold release holds SortedMap.contains
  simp only [SortedMap.get?_erase]
  by_cases hother : other = key <;> simp [hother]

/-- The number of keys that are held is that of the holders, if these have
pairwise different keys and nobody else holds one. -/
theorem inFlight_eq_card {ι : Type} [DecidableEq ι] {holders : Finset ι}
    (lock : ι → LockKey) (hinj : Set.InjOn lock holders)
    (hheld : ∀ key, locks.holds key = true ↔ ∃ i ∈ holders, lock i = key) :
    locks.inFlight = holders.card := by
  have hkeys : locks.keys.keys.toFinset = holders.image lock := by
    ext key
    rw [List.mem_toFinset, SortedMap.mem_keys, Finset.mem_image, ← hheld]
    exact Option.isSome_iff_exists.symm
  rw [← Finset.card_image_of_injOn hinj, ← hkeys,
    List.toFinset_card_of_nodup locks.keys.keys_nodup]
  exact (List.length_map ..).symm

end InvocationLocks

-- ==================================================== the calls

/-- A call to be made: for a service that there is data for. -/
structure Job where
  topology : Topology
  env : CheckEnvironment
  service : Service
  plugin : CheckPlugin
  data : ServiceData
  hasData : topology.dataFor env service plugin = .ok data

namespace Job

variable {j k : Job}

/-- The key that the call is made under. -/
def lock (j : Job) : LockKey :=
  { host := j.topology.host, service := j.service.id }

/-- The namespaces of the service. -/
def Owns (j : Job) (key : NamespaceKey) : Prop :=
  ValueStore.Owns j.topology.host j.service.id key

/-- Two states have the same stored for the service. -/
def Agree (j : Job) (state state' : CheckState) : Prop :=
  ValueStore.AgreeFor j.topology.host j.service.id state.store state'.store

/-- The arguments of the call. -/
def call (j : Job) : AnyCall := Topology.callFor j.env j.service j.plugin j.data

/-- The steps of the call. -/
def steps (j : Job) : Steps :=
  j.topology.steps j.env j.service j.plugin j.call

/-- How the call ends. -/
def ending (j : Job) (state : CheckState) : Ending :=
  (j.topology.invoke j.env j.service j.plugin j.call state.store).ending

/-- What is made of an ending. -/
def conclude (j : Job) (ending : Ending) (state : CheckState) :
    Except Abort ServiceOutcome × CheckState :=
  j.topology.conclude j.env j.service j.call j.data.cacheInfo ending state

/-- The check of the service, with nothing in between. -/
def check (j : Job) (state : CheckState) :
    Except Abort ServiceOutcome × CheckState :=
  j.topology.checkService j.env j.service j.plugin state

/-- Each namespace is under one key. -/
theorem lock_eq_of_owns {key : NamespaceKey} (h : j.Owns key)
    (h' : k.Owns key) : j.lock = k.lock := by
  unfold lock
  rw [← h.1, ← h.2, ← h'.1, ← h'.2]

/-- The steps of a call, with nothing in between, end as it does and leave the
same behind. -/
theorem run_steps (j : Job) (state : CheckState) :
    (j.steps.run state).1 = j.ending state
      ∧ (j.steps.run state).2.store = (j.check state).2.store := by
  unfold steps check
  rw [Topology.run_steps, Topology.checkService_of_data j.hasData,
    Topology.conclude_keeps.1]
  exact ⟨rfl, rfl⟩

/-- How a call ends depends on what is stored for the service. -/
theorem ending_congr {state state' : CheckState} (h : j.Agree state state') :
    j.ending state = j.ending state' :=
  (Topology.invoke_congr j.hasData h).1

/-- What a check leaves to its service depends on what was stored for it. -/
theorem check_agree {state state' : CheckState} (h : j.Agree state state') :
    j.Agree (j.check state).2 (j.check state').2 :=
  Topology.checkService_agree rfl h

/-- A check leaves the services under other keys alone. -/
theorem agree_check (hlock : j.lock ≠ k.lock) (state : CheckState) :
    j.Agree (k.check state).2 state :=
  fun _ hown => Topology.checkService_frame fun hother =>
    hlock (lock_eq_of_owns hown hother)

/-- What is made of the ending of a call is the answer of the check, whatever
has happened to the rest of the state in between. -/
theorem conclude_sameAnswer (j : Job) (state state' : CheckState) :
    ServiceOutcome.SameAnswer (j.conclude (j.ending state) state').1
      (j.check state).1 := by
  unfold check
  rw [Topology.checkService_of_data j.hasData]
  exact Topology.conclude_sameAnswer

/-- What is made of an ending touches neither the store nor the keys. -/
theorem conclude_keeps (j : Job) (ending : Ending) (state : CheckState) :
    (j.conclude ending state).2.store = state.store
      ∧ (j.conclude ending state).2.locks = state.locks := by
  unfold conclude Topology.conclude
  cases ending with
  | yielded outputs | ignored message | timedOut => exact ⟨rfl, rfl⟩
  | failed message | crashed message =>
      simp only
      split <;> exact ⟨rfl, rfl⟩

end Job

-- ==================================================== the threads

/-- How far a thread is with its call. -/
inductive Phase where
  /-- It has not got its key yet. -/
  | waiting
  /-- It holds its key, and some steps remain. -/
  | working (rest : Steps)
  /-- It has given its key back. -/
  | released (ending : Ending)
  /-- It has its answer. -/
  | answered (answer : Except Abort ServiceOutcome)

namespace Phase

/-- Whether a thread holds its key. -/
def holds : Phase → Bool
  | working _ => true
  | waiting | released _ | answered _ => false

/-- Whether a thread has its answer. -/
def isAnswered : Phase → Bool
  | answered _ => true
  | waiting | working _ | released _ => false

/-- Whether a thread has not got its key yet. -/
def isWaiting : Phase → Bool
  | waiting => true
  | working _ | released _ | answered _ => false

/-- A thread that has not got its key yet waits. -/
theorem isWaiting_iff {phase : Phase} :
    phase.isWaiting = true ↔ phase = .waiting := by
  cases phase with
  | waiting => exact ⟨fun _ => rfl, fun _ => rfl⟩
  | working rest | released ending | answered answer =>
      exact ⟨fun h => (by cases h), fun h => (by cases h)⟩

end Phase

/-- A thread, with the keys of the copies that it has open. -/
structure Thread where
  phase : Phase := .waiting
  opened : List NamespaceKey := []

/-- Threads that work on one state. -/
structure Workers (ι : Type) where
  shared : CheckState
  threads : ι → Thread
  /-- The threads that have got their keys, in the order in which they did. -/
  order : List ι

namespace Workers

variable {ι : Type}

/-- The threads before any of them has begun. -/
def start (state : CheckState) : Workers ι where
  shared := { state with locks := ∅ }
  threads := fun _ => {}
  order := []

/-- The threads after one of them has changed, and the state. -/
def set [DecidableEq ι] (w : Workers ι) (i : ι) (shared : CheckState)
    (thread : Thread) : Workers ι :=
  { w with shared, threads := Function.update w.threads i thread }

/-- One step of a thread, if there is one that it can do now. -/
def turn [DecidableEq ι] (jobs : ι → Job) (w : Workers ι) (i : ι) :
    Option (Workers ι) :=
  let job := jobs i
  let opened := (w.threads i).opened
  match (w.threads i).phase with
  | .waiting =>
    (w.shared.locks.acquire? job.lock).map fun locks =>
      { w.set i { w.shared with locks } { phase := .working job.steps, opened }
        with order := w.order ++ [i] }
  | .working (.ended ending) =>
    some (w.set i
      { w.shared with locks := w.shared.locks.release job.lock }
      { phase := .released ending, opened })
  | .working steps =>
    (steps.step? opened w.shared).map fun (rest, opened, shared) =>
      w.set i shared { phase := .working rest, opened }
  | .released ending =>
    let (answer, shared) := job.conclude ending w.shared
    some (w.set i shared { phase := .answered answer, opened })
  | .answered _ => none

/-- The steps of the threads in the order of a schedule, if each of them can be
done when it is due. -/
def run [DecidableEq ι] (jobs : ι → Job) (schedule : List ι) (w : Workers ι) :
    Option (Workers ι) :=
  schedule.foldlM (turn jobs) w

/-- A thread holds its key. -/
def Holds (w : Workers ι) (i : ι) : Prop := (w.threads i).phase.holds = true

/-- A thread has its answer. -/
def Answered (w : Workers ι) (i : ι) : Prop :=
  (w.threads i).phase.isAnswered = true

/-- A thread waits for a key that is held. -/
def Blocked (jobs : ι → Job) (w : Workers ι) (i : ι) : Prop :=
  (w.threads i).phase.isWaiting = true
    ∧ w.shared.locks.holds (jobs i).lock = true

instance (jobs : ι → Job) (w : Workers ι) (i : ι) :
    Decidable (Blocked jobs w i) := inferInstanceAs (Decidable (_ ∧ _))

instance (w : Workers ι) (i : ι) : Decidable (w.Holds i) :=
  inferInstanceAs (Decidable (_ = true))

instance (w : Workers ι) (i : ι) : Decidable (w.Answered i) :=
  inferInstanceAs (Decidable (_ = true))

-- ==================================================== one step

variable {jobs : ι → Job} {w w' : Workers ι} {i j : ι}

/-- One thread has changed, and no other. -/
structure Changed (w w' : Workers ι) (i : ι) (thread : Thread) : Prop where
  self : w'.threads i = thread
  others : ∀ j, j ≠ i → w'.threads j = w.threads j

/-- The other threads hold their keys as before. -/
theorem Changed.holds_iff {thread : Thread} (h : Changed w w' i thread)
    (hj : j ≠ i) : w'.Holds j ↔ w.Holds j := by
  unfold Holds
  rw [h.others j hj]

/-- A thread that has its key as before makes no difference to who holds one. -/
theorem Changed.holds_iff_of_phase {thread : Thread}
    (h : Changed w w' i thread)
    (hphase : thread.phase.holds = (w.threads i).phase.holds) (k : ι) :
    w'.Holds k ↔ w.Holds k := by
  by_cases hki : k = i
  · subst hki
    unfold Holds
    rw [h.self, hphase]
  · exact h.holds_iff hki

/-- A thread that holds its key after it has changed, or as before. -/
theorem Changed.exists_holds {thread : Thread} {key : LockKey}
    (h : Changed w w' i thread) :
    (∃ k, w'.Holds k ∧ (jobs k).lock = key)
      ↔ (thread.phase.holds = true ∧ (jobs i).lock = key)
        ∨ ∃ k, k ≠ i ∧ w.Holds k ∧ (jobs k).lock = key := by
  constructor
  · rintro ⟨k, hk, hlock⟩
    by_cases hki : k = i
    · subst hki
      unfold Holds at hk
      rw [h.self] at hk
      exact Or.inl ⟨hk, hlock⟩
    · exact Or.inr ⟨k, hki, (h.holds_iff hki).mp hk, hlock⟩
  · rintro (⟨hthread, hlock⟩ | ⟨k, hki, hk, hlock⟩)
    · refine ⟨i, ?_, hlock⟩
      unfold Holds
      rwa [h.self]
    · exact ⟨k, (h.holds_iff hki).mpr hk, hlock⟩

variable [DecidableEq ι]

/-- Nothing else has changed where one thread has been replaced. -/
private theorem changed_of_update {thread : Thread}
    (h : w'.threads = Function.update w.threads i thread) :
    Changed w w' i thread where
  self := by rw [h, Function.update_self]
  others _ hj := by rw [h, Function.update_of_ne hj]

/-- A step of a thread takes its key, is one of its call, gives the key back, or
makes an answer of the ending. -/
theorem turn_cases (h : w.turn jobs i = some w') :
    (∃ locks, (w.threads i).phase = .waiting
      ∧ w.shared.locks.acquire? (jobs i).lock = some locks
      ∧ w'.shared = { w.shared with locks } ∧ w'.order = w.order ++ [i]
      ∧ Changed w w' i
        { phase := .working (jobs i).steps, opened := (w.threads i).opened })
    ∨ (∃ steps rest opened, (w.threads i).phase = .working steps
      ∧ steps.step? (w.threads i).opened w.shared
        = some (rest, opened, w'.shared)
      ∧ w'.order = w.order ∧ Changed w w' i { phase := .working rest, opened })
    ∨ (∃ ending, (w.threads i).phase = .working (.ended ending)
      ∧ w'.shared
        = { w.shared with locks := w.shared.locks.release (jobs i).lock }
      ∧ w'.order = w.order
      ∧ Changed w w' i
        { phase := .released ending, opened := (w.threads i).opened })
    ∨ ∃ ending, (w.threads i).phase = .released ending
      ∧ w'.shared = ((jobs i).conclude ending w.shared).2
      ∧ w'.order = w.order
      ∧ Changed w w' i
        { phase := .answered ((jobs i).conclude ending w.shared).1
          opened := (w.threads i).opened } := by
  unfold turn at h
  simp only at h
  split at h
  case h_1 hphase =>
    obtain ⟨locks, hlocks, rfl⟩ := Option.map_eq_some_iff.mp h
    exact Or.inl ⟨locks, hphase, hlocks, rfl, rfl, changed_of_update rfl⟩
  case h_2 ending hphase =>
    cases h
    exact Or.inr (Or.inr (Or.inl
      ⟨ending, hphase, rfl, rfl, changed_of_update rfl⟩))
  case h_3 steps _ hphase =>
    obtain ⟨⟨rest, opened, shared⟩, hstep, rfl⟩ := Option.map_eq_some_iff.mp h
    exact Or.inr (Or.inl
      ⟨steps, rest, opened, hphase, hstep, rfl, changed_of_update rfl⟩)
  case h_4 ending hphase =>
    cases h
    exact Or.inr (Or.inr (Or.inr
      ⟨ending, hphase, rfl, rfl, changed_of_update rfl⟩))
  case h_5 => cases h

/-- A thread that holds its key can do a step. -/
theorem turn_of_holds (h : w.Holds i) : (w.turn jobs i).isSome = true := by
  unfold Holds at h
  unfold turn
  cases hphase : (w.threads i).phase with
  | waiting | released ending | answered answer =>
      rw [hphase] at h
      cases h
  | working steps =>
      cases hsteps : steps with
      | ended ending => rfl
      | copy key next | call invocation run next | putBack key values next =>
          rfl

/-- A thread that waits for a key that is free can take it. -/
theorem turn_of_waiting (hphase : (w.threads i).phase = .waiting)
    (hfree : w.shared.locks.holds (jobs i).lock = false) :
    (w.turn jobs i).isSome = true := by
  unfold turn
  simp only [hphase, Option.isSome_map]
  exact InvocationLocks.acquire?_isSome.mpr hfree

end Workers

end HostWatch
