/-
Whatever the schedule of the threads, the calls might as well have been made
one after the other.

The invariant (`Consistent`) compares the store with the one that the same
calls leave behind when they are made one after the other, in the order in
which the keys were taken. For a service whose key is free the two hold the
same. For a service whose key is held they hold the same as soon as the rest
of its steps has been done, and that is true at every moment, since nobody
else reads or writes there: no key is held twice (`Guarded`). So it does not
matter that the steps of different services are mixed, and nothing is lost
when the last key has been given back (`run_serial`).
-/
import HostWatch.Proofs.Check.Workers
import Mathlib.Data.Fintype.Basic

namespace HostWatch

-- ==================================================== the invariant

/-- The state that the calls of some threads leave behind when they are made
one after the other. -/
def serial {ι : Type} (jobs : ι → Job) (order : List ι) (state : CheckState) :
    CheckState :=
  order.foldl (fun state i => ((jobs i).check state).2) state

/-- One more call at the end. -/
theorem serial_append_singleton {ι : Type} (jobs : ι → Job) (order : List ι)
    (i : ι) (state : CheckState) :
    serial jobs (order ++ [i]) state
      = ((jobs i).check (serial jobs order state)).2 :=
  List.foldl_concat ..

/-- What a thread that has got its key has done is what its call does when it
is made in the state `before`, and what remains to be done will leave to its
service what there is in the state `final`. -/
def Job.Fits (j : Job) (before final shared : CheckState) (thread : Thread) :
    Prop :=
  match thread.phase with
  | .waiting => False
  | .working rest =>
    rest.Owned j.topology.host j.service.id ∧ rest.Closes thread.opened
      ∧ (rest.run shared).1 = j.ending before
      ∧ j.Agree (rest.run shared).2 final
  | .released ending => thread.opened = [] ∧ ending = j.ending before
  | .answered answer =>
    thread.opened = [] ∧ ServiceOutcome.SameAnswer answer (j.check before).1

namespace Workers

variable {ι : Type} {jobs : ι → Job} {state : CheckState} {w w' : Workers ι}
    {i j : ι}

/-- A thread has done nothing yet, or what its call does when the calls are
made one after the other. -/
def Fits (jobs : ι → Job) (state : CheckState) (w : Workers ι) (i : ι) : Prop :=
  ((w.threads i).phase = .waiting ∧ (w.threads i).opened = [] ∧ i ∉ w.order)
    ∨ ∃ before after, w.order = before ++ i :: after
      ∧ (jobs i).Fits (serial jobs before state) (serial jobs w.order state)
        w.shared (w.threads i)

/-- The keys that are held are those of the threads that hold them, and no two
threads hold the same. -/
structure Guarded (jobs : ι → Job) (w : Workers ι) : Prop where
  held : ∀ key, w.shared.locks.holds key = true
    ↔ ∃ i, w.Holds i ∧ (jobs i).lock = key
  distinct : ∀ i j, w.Holds i → w.Holds j →
    (jobs i).lock = (jobs j).lock → i = j

/-- Apart from what the threads that hold keys have still to do, the state is
the one that the calls leave behind when they are made one after the other, in
the order in which the keys were taken. -/
structure Consistent (jobs : ι → Job) (state : CheckState) (w : Workers ι) :
    Prop extends Guarded jobs w where
  nodup : w.order.Nodup
  settled : ∀ key, (∀ i, w.Holds i → ¬ (jobs i).Owns key) →
    w.shared.store.get? key = (serial jobs w.order state).store.get? key
  fits : ∀ i, Fits jobs state w i

/-- At the start no key is held and nothing has been done. -/
theorem consistent_start (jobs : ι → Job) (state : CheckState) :
    Consistent jobs state (start state) where
  held key := by
    refine ⟨fun h => (by cases h), ?_⟩
    rintro ⟨i, hi, -⟩
    cases hi
  distinct i j hi := by cases hi
  nodup := List.nodup_nil
  settled key _ := rfl
  fits i := Or.inl ⟨rfl, rfl, List.not_mem_nil⟩

/-- What the others do makes no difference to a thread, as long as what is
stored for its service stays the same while it holds its key. -/
private theorem Fits.of_other (hfits : Fits jobs state w j)
    (hthread : w'.threads j = w.threads j)
    (horder : w'.order = w.order ∨ ∃ i, i ≠ j ∧ w'.order = w.order ++ [i])
    (hshared : w.Holds j → (jobs j).Agree w.shared w'.shared)
    (hserial : w.Holds j → (jobs j).Agree (serial jobs w.order state)
      (serial jobs w'.order state)) :
    Fits jobs state w' j := by
  rcases hfits with ⟨hphase, hopened, hmem⟩ | ⟨before, after, hsplit, hfits⟩
  · refine Or.inl ⟨hthread ▸ hphase, hthread ▸ hopened, ?_⟩
    rcases horder with h | ⟨i, hi, h⟩
    · rwa [h]
    · rw [h, List.mem_append, List.mem_singleton]
      exact not_or.mpr ⟨hmem, Ne.symm hi⟩
  · have hsplit' : ∃ after', w'.order = before ++ j :: after' := by
      rcases horder with h | ⟨i, -, h⟩
      · exact ⟨after, h.trans hsplit⟩
      · exact ⟨after ++ [i], by rw [h, hsplit, List.append_assoc]; rfl⟩
    obtain ⟨after', hsplit'⟩ := hsplit'
    refine Or.inr ⟨before, after', hsplit', ?_⟩
    unfold Job.Fits at hfits ⊢
    rw [hthread]
    cases hphase : (w.threads j).phase with
    | waiting | released ending | answered answer =>
        rw [hphase] at hfits
        exact hfits
    | working rest =>
        have hholds : w.Holds j := by
          unfold Holds
          rw [hphase]
          rfl
        rw [hphase] at hfits
        obtain ⟨howned, hcloses, hending, hagree⟩ := hfits
        have hrun := howned.run_congr (hshared hholds)
        refine ⟨howned, hcloses, hrun.1.symm.trans hending, fun key hkey => ?_⟩
        rw [← hrun.2 key hkey, hagree key hkey]
        exact hserial hholds key hkey

-- ==================================================== the keys after a step

namespace Guarded

/-- Threads that hold different keys have nothing stored in common. -/
private theorem not_owns (h : Guarded jobs w) (hi : w.Holds i) (hj : w.Holds j)
    (hij : j ≠ i) {key : NamespaceKey} (hown : (jobs j).Owns key) :
    ¬ (jobs i).Owns key :=
  fun hown' => hij (h.distinct j i hj hi (Job.lock_eq_of_owns hown hown'))

/-- The key of a thread that holds one is not free. -/
private theorem lock_ne_of_free (h : Guarded jobs w) (hj : w.Holds j)
    (hfree : w.shared.locks.holds (jobs i).lock = false) :
    (jobs j).lock ≠ (jobs i).lock := by
  intro hlock
  rw [(h.held _).mpr ⟨j, hj, hlock⟩] at hfree
  cases hfree

/-- Who holds a key stays the same. -/
private theorem same (h : Guarded jobs w) (hsame : ∀ k, w'.Holds k ↔ w.Holds k)
    (hlocks : w'.shared.locks = w.shared.locks) : Guarded jobs w' where
  held key := by
    rw [hlocks, h.held key]
    exact exists_congr fun k => and_congr_left fun _ => (hsame k).symm
  distinct k l hk hl := h.distinct k l ((hsame k).mp hk) ((hsame l).mp hl)

/-- A thread takes a key that is free. -/
private theorem acquire (h : Guarded jobs w) {locks : InvocationLocks}
    (hlocks : w.shared.locks.acquire? (jobs i).lock = some locks)
    (hshared : w'.shared.locks = locks) {thread : Thread}
    (hchanged : Changed w w' i thread) (hthread : thread.phase.holds = true) :
    Guarded jobs w' := by
  obtain ⟨hfree, hlocks⟩ := InvocationLocks.acquire?_some hlocks
  have hne : ∀ k, w.Holds k → k ≠ i := by
    rintro k hk rfl
    exact h.lock_ne_of_free hk hfree rfl
  have hholds : ∀ k, w'.Holds k → k ≠ i → w.Holds k :=
    fun k hk hki => (hchanged.holds_iff hki).mp hk
  refine ⟨fun key => ?_, fun k l hk hl hkl => ?_⟩
  · rw [hshared, hlocks key, h.held key, hchanged.exists_holds]
    refine or_congr ⟨fun heq => ⟨hthread, heq.symm⟩, fun heq => heq.2.symm⟩ ?_
    exact exists_congr fun k => ⟨fun hk => ⟨hne k hk.1, hk⟩, And.right⟩
  · by_cases hki : k = i
    · by_cases hli : l = i
      · rw [hki, hli]
      · rw [hki] at hkl
        exact absurd hkl.symm (h.lock_ne_of_free (hholds l hl hli) hfree)
    · by_cases hli : l = i
      · rw [hli] at hkl
        exact absurd hkl (h.lock_ne_of_free (hholds k hk hki) hfree)
      · exact h.distinct k l (hholds k hk hki) (hholds l hl hli) hkl

/-- A thread gives its key back. -/
private theorem release (h : Guarded jobs w) (hi : w.Holds i)
    (hlocks : w'.shared.locks = w.shared.locks.release (jobs i).lock)
    {thread : Thread} (hchanged : Changed w w' i thread)
    (hthread : thread.phase.holds = false) : Guarded jobs w' := by
  have hsame : ∀ k, w'.Holds k → w.Holds k := by
    intro k hk
    by_cases hki : k = i
    · rwa [hki]
    · exact (hchanged.holds_iff hki).mp hk
  refine ⟨fun key => ?_, fun k l hk hl =>
    h.distinct k l (hsame k hk) (hsame l hl)⟩
  rw [hlocks, InvocationLocks.holds_release, h.held key, hchanged.exists_holds]
  constructor
  · rintro ⟨hkey, k, hk, rfl⟩
    exact Or.inr ⟨k, fun hki => hkey (hki ▸ rfl), hk, rfl⟩
  · rintro (⟨hholds, -⟩ | ⟨k, hki, hk, rfl⟩)
    · rw [hthread] at hholds
      cases hholds
    · exact ⟨fun hlock => hki (h.distinct k i hk hi hlock), k, hk, rfl⟩

end Guarded

-- ==================================================== the state after a step

namespace Consistent

/-- A thread that has got its key has done what its call does in a turn of its
own. -/
private theorem exists_split (h : Consistent jobs state w)
    (hphase : (w.threads i).phase ≠ .waiting) :
    ∃ before after, w.order = before ++ i :: after
      ∧ (jobs i).Fits (serial jobs before state) (serial jobs w.order state)
        w.shared (w.threads i) :=
  (h.fits i).resolve_left fun hwaiting => hphase hwaiting.1

/-- A thread that waits has done nothing. -/
private theorem of_waiting (h : Consistent jobs state w)
    (hphase : (w.threads i).phase = .waiting) :
    (w.threads i).opened = [] ∧ i ∉ w.order := by
  rcases h.fits i with ⟨-, hnothing⟩ | ⟨before, after, -, hfits⟩
  · exact hnothing
  · unfold Job.Fits at hfits
    rw [hphase] at hfits
    cases hfits

/-- What is stored for a service whose key is free is what the calls leave
behind. -/
private theorem agree_of_free (h : Consistent jobs state w)
    (hfree : w.shared.locks.holds (jobs i).lock = false) :
    (jobs i).Agree w.shared (serial jobs w.order state) :=
  fun key hown => h.settled key fun _ hk hown' =>
    h.lock_ne_of_free hk hfree (Job.lock_eq_of_owns hown' hown)

/-- A thread that has just got its key has its whole call before it. -/
private theorem fits_of_acquired (h : Consistent jobs state w)
    (hphase : (w.threads i).phase = .waiting)
    (hfree : w.shared.locks.holds (jobs i).lock = false)
    (hstore : w'.shared.store = w.shared.store)
    (horder : w'.order = w.order ++ [i])
    (hchanged : Changed w w' i
      { phase := .working (jobs i).steps, opened := (w.threads i).opened }) :
    Fits jobs state w' i := by
  have hagree : (jobs i).Agree w'.shared (serial jobs w.order state) := by
    unfold Job.Agree
    rw [hstore]
    exact h.agree_of_free hfree
  obtain ⟨hending, hrun⟩ := (jobs i).run_steps w'.shared
  refine Or.inr ⟨w.order, [], horder, ?_⟩
  unfold Job.Fits
  rw [hchanged.self, (h.of_waiting hphase).1, horder, serial_append_singleton]
  refine ⟨Topology.owned_steps .., Topology.closes_steps ..,
    hending.trans (Job.ending_congr hagree), ?_⟩
  unfold Job.Agree
  rw [hrun]
  exact Job.check_agree hagree

/-- A thread takes its key. -/
private theorem acquire (h : Consistent jobs state w)
    (hphase : (w.threads i).phase = .waiting) {locks : InvocationLocks}
    (hlocks : w.shared.locks.acquire? (jobs i).lock = some locks)
    (hshared : w'.shared = { w.shared with locks })
    (horder : w'.order = w.order ++ [i])
    (hchanged : Changed w w' i
      { phase := .working (jobs i).steps, opened := (w.threads i).opened }) :
    Consistent jobs state w' := by
  have hfree := (InvocationLocks.acquire?_some hlocks).1
  have hguarded : Guarded jobs w' :=
    h.toGuarded.acquire hlocks (by rw [hshared]) hchanged rfl
  have hstore : w'.shared.store = w.shared.store := by rw [hshared]
  have hserial : serial jobs w'.order state
      = ((jobs i).check (serial jobs w.order state)).2 := by
    rw [horder, serial_append_singleton]
  have hself : w'.Holds i := by
    unfold Holds
    rw [hchanged.self]
    rfl
  have hne : ∀ k, w.Holds k → k ≠ i := by
    rintro k hk rfl
    exact h.lock_ne_of_free hk hfree rfl
  refine ⟨hguarded, ?_, fun key hkey => ?_, fun k => ?_⟩
  · rw [horder, ← List.concat_eq_append]
    exact h.nodup.concat (h.of_waiting hphase).2
  · have hframe : (serial jobs w'.order state).store.get? key
        = (serial jobs w.order state).store.get? key := by
      rw [hserial]
      exact Topology.checkService_frame (hkey i hself)
    rw [hstore, hframe]
    exact h.settled key fun k hk =>
      hkey k ((hchanged.holds_iff (hne k hk)).mpr hk)
  · by_cases hki : k = i
    · subst hki
      exact h.fits_of_acquired hphase hfree hstore horder hchanged
    · refine (h.fits k).of_other (hchanged.others k hki)
        (Or.inr ⟨i, Ne.symm hki, horder⟩) (fun _ => ?_) fun hk => ?_
      · exact fun key _ => by rw [hstore]
      · rw [hserial]
        exact fun key hown =>
          (Job.agree_check (h.lock_ne_of_free hk hfree) _ key hown).symm

/-- A thread does something that only its own service sees, and the others
stay as they are. -/
private theorem of_changed (h : Consistent jobs state w) {thread : Thread}
    (hguarded : Guarded jobs w') (horder : w'.order = w.order)
    (hchanged : Changed w w' i thread)
    (hsettled : ∀ key, (∀ k, w'.Holds k → ¬ (jobs k).Owns key) →
      w'.shared.store.get? key = (serial jobs w.order state).store.get? key)
    (hagree : ∀ k, k ≠ i → w.Holds k → (jobs k).Agree w.shared w'.shared)
    (hphase : (w.threads i).phase ≠ .waiting)
    (hfits : ∀ before, (jobs i).Fits (serial jobs before state)
        (serial jobs w.order state) w.shared (w.threads i) →
      (jobs i).Fits (serial jobs before state) (serial jobs w.order state)
        w'.shared thread) :
    Consistent jobs state w' := by
  refine ⟨hguarded, horder ▸ h.nodup, horder ▸ hsettled, fun k => ?_⟩
  by_cases hki : k = i
  · subst hki
    obtain ⟨before, after, hsplit, hfits'⟩ := h.exists_split hphase
    refine Or.inr ⟨before, after, horder.trans hsplit, ?_⟩
    rw [hchanged.self, horder]
    exact hfits before hfits'
  · refine (h.fits k).of_other (hchanged.others k hki) (Or.inl horder)
      (hagree k hki) fun _ => ?_
    rw [horder]
    exact fun _ _ => rfl

/-- A thread does a step of its call. -/
private theorem work (h : Consistent jobs state w) {steps rest : Steps}
    {opened : List NamespaceKey} (hphase : (w.threads i).phase = .working steps)
    (hstep : steps.step? (w.threads i).opened w.shared
      = some (rest, opened, w'.shared))
    (horder : w'.order = w.order)
    (hchanged : Changed w w' i { phase := .working rest, opened }) :
    Consistent jobs state w' := by
  have hholds : w.Holds i := by
    unfold Holds
    rw [hphase]
    rfl
  have hsame := hchanged.holds_iff_of_phase (by rw [hphase]; rfl)
  obtain ⟨before, after, -, hfits⟩ := h.exists_split (by rw [hphase]; nofun)
  unfold Job.Fits at hfits
  rw [hphase] at hfits
  obtain ⟨hlocks, hframe⟩ := hfits.1.step_frame hstep
  refine h.of_changed (h.toGuarded.same hsame hlocks) horder hchanged
    (fun key hkey => ?_) (fun k hki hk key hown => ?_) (by rw [hphase]; nofun)
    fun before hfits => ?_
  · rw [hframe key (hkey i ((hsame i).mpr hholds))]
    exact h.settled key fun k hk => hkey k ((hsame k).mpr hk)
  · exact (hframe key (h.not_owns hholds hk hki hown)).symm
  · unfold Job.Fits at hfits ⊢
    rw [hphase] at hfits
    obtain ⟨howned, hcloses, hending, hagree⟩ := hfits
    simp only
    rw [Steps.run_of_step hstep]
    exact ⟨howned.step hstep, hcloses.step hstep, hending, hagree⟩

/-- A thread gives its key back. -/
private theorem release (h : Consistent jobs state w) {ending : Ending}
    (hphase : (w.threads i).phase = .working (.ended ending))
    (hshared : w'.shared
      = { w.shared with locks := w.shared.locks.release (jobs i).lock })
    (horder : w'.order = w.order)
    (hchanged : Changed w w' i
      { phase := .released ending, opened := (w.threads i).opened }) :
    Consistent jobs state w' := by
  have hholds : w.Holds i := by
    unfold Holds
    rw [hphase]
    rfl
  have hguarded : Guarded jobs w' :=
    h.toGuarded.release hholds (by rw [hshared]) hchanged rfl
  have hstore : w'.shared.store = w.shared.store := by rw [hshared]
  obtain ⟨before, after, -, hfits⟩ := h.exists_split (by rw [hphase]; nofun)
  unfold Job.Fits at hfits
  rw [hphase] at hfits
  obtain ⟨-, -, -, hagree⟩ := hfits
  refine h.of_changed hguarded horder hchanged (fun key hkey => ?_)
    (fun k _ _ key _ => by rw [hstore]) (by rw [hphase]; nofun)
    fun before hfits => ?_
  · rw [hstore]
    by_cases hown : (jobs i).Owns key
    · exact hagree key hown
    · refine h.settled key fun k hk => ?_
      by_cases hki : k = i
      · rwa [hki]
      · exact hkey k ((hchanged.holds_iff hki).mpr hk)
  · unfold Job.Fits at hfits ⊢
    rw [hphase] at hfits
    exact ⟨hfits.2.1, hfits.2.2.1⟩

/-- A thread makes an answer of its ending. -/
private theorem conclude (h : Consistent jobs state w) {ending : Ending}
    (hphase : (w.threads i).phase = .released ending)
    (hshared : w'.shared = ((jobs i).conclude ending w.shared).2)
    (horder : w'.order = w.order)
    (hchanged : Changed w w' i
      { phase := .answered ((jobs i).conclude ending w.shared).1
        opened := (w.threads i).opened }) :
    Consistent jobs state w' := by
  obtain ⟨hstore, hlocks⟩ := (jobs i).conclude_keeps ending w.shared
  rw [← hshared] at hstore hlocks
  have hsame := hchanged.holds_iff_of_phase (by rw [hphase]; rfl)
  refine h.of_changed (h.toGuarded.same hsame hlocks) horder hchanged
    (fun key hkey => ?_) (fun k _ _ key _ => by rw [hstore])
    (by rw [hphase]; nofun) fun before hfits => ?_
  · rw [hstore]
    exact h.settled key fun k hk => hkey k ((hsame k).mpr hk)
  · unfold Job.Fits at hfits ⊢
    rw [hphase] at hfits
    obtain ⟨hopened, rfl⟩ := hfits
    exact ⟨hopened, (jobs i).conclude_sameAnswer _ _⟩

/-- A copy is open only while a key is held and some steps remain. -/
private theorem opened_eq_nil (h : Consistent jobs state w)
    (hphase : ¬ w.Holds i
      ∨ ∃ ending, (w.threads i).phase = .working (.ended ending)) :
    (w.threads i).opened = [] := by
  rcases h.fits i with ⟨-, hopened, -⟩ | ⟨before, after, -, hfits⟩
  · exact hopened
  · unfold Job.Fits at hfits
    rcases hphase with hnot | ⟨ending, hended⟩
    · unfold Holds at hnot
      cases hphase : (w.threads i).phase with
      | waiting =>
          rw [hphase] at hfits
          cases hfits
      | working rest =>
          rw [hphase] at hnot
          exact absurd rfl hnot
      | released ending | answered answer =>
          rw [hphase] at hfits
          exact hfits.1
    · rw [hended] at hfits
      exact hfits.2.1

/-- When every thread has its answer, the calls might as well have been made
one after the other. -/
private theorem of_all_answered (h : Consistent jobs state w)
    (hall : ∀ i, w.Answered i) :
    (∀ i, i ∈ w.order)
      ∧ w.shared.store = (serial jobs w.order state).store
      ∧ ∀ i, ∃ before after answer, w.order = before ++ i :: after
        ∧ (w.threads i).phase = .answered answer
        ∧ ServiceOutcome.SameAnswer answer
          ((jobs i).check (serial jobs before state)).1 := by
  have hanswer : ∀ i, ∃ answer, (w.threads i).phase = .answered answer := by
    intro i
    have hi := hall i
    unfold Answered at hi
    cases hphase : (w.threads i).phase with
    | waiting | working rest | released ending =>
        rw [hphase] at hi
        cases hi
    | answered answer => exact ⟨answer, rfl⟩
  have hsplit : ∀ i, ∃ before after answer, w.order = before ++ i :: after
      ∧ (w.threads i).phase = .answered answer
      ∧ ServiceOutcome.SameAnswer answer
        ((jobs i).check (serial jobs before state)).1 := by
    intro i
    obtain ⟨answer, hphase⟩ := hanswer i
    obtain ⟨before, after, hsplit, hfits⟩ :=
      h.exists_split (by rw [hphase]; nofun)
    unfold Job.Fits at hfits
    rw [hphase] at hfits
    exact ⟨before, after, answer, hsplit, hphase, hfits.2⟩
  refine ⟨fun i => ?_, ValueStore.ext_get? fun key => ?_, hsplit⟩
  · obtain ⟨before, after, -, horder, -⟩ := hsplit i
    rw [horder]
    exact List.mem_append_right _ (List.mem_cons_self ..)
  · refine h.settled key fun i hi => ?_
    obtain ⟨answer, hphase⟩ := hanswer i
    unfold Holds at hi
    rw [hphase] at hi
    cases hi

end Consistent

-- ==================================================== all schedules

variable [DecidableEq ι]

/-- A step keeps the threads consistent. -/
theorem Consistent.turn (h : Consistent jobs state w)
    (hturn : w.turn jobs i = some w') : Consistent jobs state w' := by
  rcases turn_cases hturn with
    ⟨locks, hphase, hlocks, hshared, horder, hchanged⟩ |
    ⟨steps, rest, opened, hphase, hstep, horder, hchanged⟩ |
    ⟨ending, hphase, hshared, horder, hchanged⟩ |
    ⟨ending, hphase, hshared, horder, hchanged⟩
  · exact h.acquire hphase hlocks hshared horder hchanged
  · exact h.work hphase hstep horder hchanged
  · exact h.release hphase hshared horder hchanged
  · exact h.conclude hphase hshared horder hchanged

/-- Whatever the schedule, the threads stay consistent. -/
theorem Consistent.run (h : Consistent jobs state w) {schedule : List ι}
    (hrun : w.run jobs schedule = some w') : Consistent jobs state w' := by
  induction schedule generalizing w with
  | nil =>
      cases hrun
      exact h
  | cons i schedule ih =>
      unfold Workers.run at hrun
      rw [List.foldlM_cons] at hrun
      obtain ⟨next, hturn, hrun⟩ := Option.bind_eq_some_iff.mp hrun
      exact ih (h.turn hturn) hrun

/-- As long as a thread has no answer, some thread can do a step. -/
private theorem Consistent.exists_turn (h : Consistent jobs state w)
    (hi : ¬ w.Answered i) : ∃ j, (w.turn jobs j).isSome = true := by
  cases hphase : (w.threads i).phase with
  | waiting =>
      cases hheld : w.shared.locks.holds (jobs i).lock with
      | true =>
          obtain ⟨j, hj, -⟩ := (h.held _).mp hheld
          exact ⟨j, turn_of_holds hj⟩
      | false => exact ⟨i, turn_of_waiting hphase hheld⟩
  | working rest =>
      refine ⟨i, turn_of_holds ?_⟩
      unfold Holds
      rw [hphase]
      rfl
  | released ending =>
      refine ⟨i, ?_⟩
      unfold Workers.turn
      rw [hphase]
      rfl
  | answered answer =>
      unfold Answered at hi
      rw [hphase] at hi
      exact absurd rfl hi

/-- For every schedule of the steps of some calls: the keys that are held are
pairwise different, and as many as there are threads that hold one; a thread
has put back all its copies before it gives its key back, in whichever way its
call has ended; a thread that has to wait holds no key, and waits for another
one that holds the key and can go on; as long as there is a thread without an
answer, some thread can go on; and when all have their answers, the store holds
what the calls leave there when they are made one after the other, in the
order in which the keys were taken, and each thread has the answer that it
gets then, the identity of a crash report apart. -/
theorem run_serial [Fintype ι] (jobs : ι → Job) (state : CheckState)
    (schedule : List ι) (w : Workers ι)
    (hrun : (start state).run jobs schedule = some w) :
    (∀ i j, w.Holds i → w.Holds j → (jobs i).lock = (jobs j).lock → i = j)
      ∧ w.shared.locks.inFlight = (Finset.univ.filter w.Holds).card
      ∧ (∀ i, (¬ w.Holds i
          ∨ ∃ ending, (w.threads i).phase = .working (.ended ending)) →
        (w.threads i).opened = [])
      ∧ (∀ i, Blocked jobs w i → ¬ w.Holds i ∧ ∃ j, j ≠ i ∧ w.Holds j
        ∧ (jobs j).lock = (jobs i).lock ∧ (w.turn jobs j).isSome = true)
      ∧ ((∃ i, ¬ w.Answered i) → ∃ i, (w.turn jobs i).isSome = true)
      ∧ w.order.Nodup
      ∧ ((∀ i, w.Answered i) →
        (∀ i, i ∈ w.order)
          ∧ w.shared.store = (serial jobs w.order state).store
          ∧ ∀ i, ∃ before after answer, w.order = before ++ i :: after
            ∧ (w.threads i).phase = .answered answer
            ∧ ServiceOutcome.SameAnswer answer
              ((jobs i).check (serial jobs before state)).1) := by
  have h := (consistent_start jobs state).run hrun
  refine ⟨h.distinct, ?_, fun i => h.opened_eq_nil, fun i hblocked => ?_,
    fun ⟨i, hi⟩ => h.exists_turn hi, h.nodup, h.of_all_answered⟩
  · refine InvocationLocks.inFlight_eq_card (fun i => (jobs i).lock)
      (fun i hi j hj => ?_) fun key => ?_
    · exact h.distinct i j (Finset.mem_filter.mp hi).2
        (Finset.mem_filter.mp hj).2
    · rw [h.held key]
      simp only [Finset.mem_filter, Finset.mem_univ, true_and]
  · obtain ⟨hphase, hheld⟩ := hblocked
    have hnot : ¬ w.Holds i := by
      unfold Holds
      rw [Phase.isWaiting_iff.mp hphase]
      exact Bool.false_ne_true
    obtain ⟨j, hj, hlock⟩ := (h.held _).mp hheld
    refine ⟨hnot, j, ?_, hj, hlock, turn_of_holds hj⟩
    rintro rfl
    exact hnot hj

/-- The calls that have been counted. -/
def countedCalls (values : Namespace) : Int :=
  match values.get? "calls" with
  | some (.int n) => n
  | _ => 0

/-- A plugin that counts its calls, and fails where the load is 2. -/
def countingPlugin : CheckPlugin where
  name := "load"
  sections := ["load"]
  function call _ values :=
    { ending :=
        match call.sections.section? "load" with
        | some (.list [.list [.text "2"]]) => .failed "too high"
        | _ => .yielded [.ofSummary .ok "fine"]
      values := values.insert "calls" (.int (countedCalls values + 1)) }

/-- The call of the plugin for a service that there is data for. -/
def countingJob (topology : Topology) (debug : Bool)
    (h : (topology.dataFor { pairEnvironment .worst with debug } loadService
      countingPlugin).toOption.isSome = true) : Job where
  topology := topology
  env := { pairEnvironment .worst with debug }
  service := loadService
  plugin := countingPlugin
  data := (topology.dataFor { pairEnvironment .worst with debug } loadService
    countingPlugin).toOption.get h
  hasData := by
    revert h
    cases topology.dataFor { pairEnvironment .worst with debug } loadService
      countingPlugin with
    | error result => intro h; cases h
    | ok data => intro h; rfl

/-- Two calls for the service of the cluster, one of which lets the failure of
the second node through, and one for the service of a node. -/
def countingJobs : Fin 3 → Job
  | 0 => countingJob pairTopology false (by decide +kernel)
  | 1 => countingJob pairTopology true (by decide +kernel)
  | 2 => countingJob { host := "alpha" } false (by decide +kernel)

/-- The second and the third thread take turns, and the first one comes to its
key between the release of the second one and its answer. -/
def countingSchedule : List (Fin 3) :=
  [1, 2, 1, 1, 2, 1, 1, 2, 1] ++ [2, 1, 1, 1, 2, 1, 0, 0, 1]
    ++ [0, 0, 0, 0, 0, 0, 0, 0, 0, 2]

/-- The first thread has to wait for the second one while two keys are held,
and in the end both calls for the cluster have been counted on either node. -/
theorem run_serial_counting :
    ∃ middle final,
      (start {}).run countingJobs (countingSchedule.take 9) = some middle
        ∧ middle.shared.locks.inFlight = 2
        ∧ Blocked countingJobs middle 0
        ∧ (∃ j, j ≠ 0 ∧ middle.Holds j
          ∧ (countingJobs j).lock = (countingJobs 0).lock)
        ∧ (start {}).run countingJobs countingSchedule = some final
        ∧ (∀ i, final.Answered i)
        ∧ final.order = [1, 2, 0]
        ∧ final.shared.store = (serial countingJobs [1, 2, 0] {}).store
        ∧ ["alpha", "beta"].map (fun node => countedCalls
            (final.shared.store.workingCopy
              ⟨"pair", loadService.id, some node⟩)) = [2, 2] := by
  have hsome : ((start {}).run countingJobs
      (countingSchedule.take 9)).isSome = true := by decide +kernel
  have hmiddle : ((start {}).run countingJobs
      (countingSchedule.take 9)).any (fun w => w.shared.locks.inFlight = 2
        ∧ Blocked countingJobs w 0) = true := by decide +kernel
  have hsome' : ((start {}).run countingJobs
      countingSchedule).isSome = true := by decide +kernel
  have hfinal : ((start {}).run countingJobs countingSchedule).any (fun w =>
      (∀ i, w.Answered i) ∧ w.order = [1, 2, 0]
        ∧ ["alpha", "beta"].map (fun node => countedCalls
            (w.shared.store.workingCopy
              ⟨"pair", loadService.id, some node⟩)) = [2, 2]) = true := by
    decide +kernel
  obtain ⟨middle, hrun⟩ := Option.isSome_iff_exists.mp hsome
  obtain ⟨final, hrun'⟩ := Option.isSome_iff_exists.mp hsome'
  rw [hrun, Option.any_some, decide_eq_true_eq] at hmiddle
  rw [hrun', Option.any_some, decide_eq_true_eq] at hfinal
  obtain ⟨hinFlight, hblocked⟩ := hmiddle
  obtain ⟨hanswered, horder, hcalls⟩ := hfinal
  obtain ⟨-, -, -, hwait, -⟩ := run_serial countingJobs {} _ middle hrun
  obtain ⟨-, -, -, -, -, -, hall⟩ := run_serial countingJobs {} _ final hrun'
  obtain ⟨-, j, hj, hholds, hlock, -⟩ := hwait 0 hblocked
  obtain ⟨-, hstore, -⟩ := hall hanswered
  rw [horder] at hstore
  exact ⟨middle, final, hrun, hinFlight, hblocked, ⟨j, hj, hholds, hlock⟩,
    hrun', hanswered, horder, hstore, hcalls⟩

end Workers

end HostWatch
