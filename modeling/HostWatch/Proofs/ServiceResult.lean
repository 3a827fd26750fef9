/-
The reduction of a check function's outputs to one result, read through
its two halves.

Metrics and sub-results go through the reduction side by side: joining
outputs joins both (`metrics_append`, `results_append`), the metrics come
out as they went in, and the state is the worst one of the sub-results
(`ofOutputs_of_results`). Worst states form a chain with `ok` at its
bottom, so a worst state of parts is taken part by part
(`worstOrOk_append`).
-/
import HostWatch.ServiceResult

namespace HostWatch

-- ==================================================== worst states

namespace State

theorem worst_assoc (a b c : State) :
    (a.worst b).worst c = a.worst (b.worst c) := by
  cases a <;> cases b <;> cases c <;> rfl

@[simp] theorem ok_worst (a : State) : ok.worst a = a := by cases a <;> rfl

@[simp] theorem worst_ok (a : State) : a.worst ok = a := by cases a <;> rfl

@[simp] theorem worst_self (a : State) : a.worst a = a := by cases a <;> rfl

/-- Folding from a state is the same as folding from the bottom and
taking it in at the end. -/
theorem foldl_worst (l : List State) :
    ∀ s : State, l.foldl worst s = s.worst (worstOrOk l) := by
  unfold worstOrOk
  induction l with
  | nil => intro s; exact (worst_ok s).symm
  | cons a l ih =>
      intro s
      rw [List.foldl_cons, List.foldl_cons, ih, ih (ok.worst a), ok_worst,
        worst_assoc]

/-- The worst state of a list is that of its head or of its tail. -/
theorem worstOrOk_cons (s : State) (l : List State) :
    worstOrOk (s :: l) = s.worst (worstOrOk l) := by
  show (s :: l).foldl worst ok = _
  rw [List.foldl_cons, foldl_worst, ok_worst]

/-- The worst state of two lists together is that of the two worst ones. -/
theorem worstOrOk_append (l l' : List State) :
    worstOrOk (l ++ l') = (worstOrOk l).worst (worstOrOk l') := by
  show (l ++ l').foldl worst ok = _
  rw [List.foldl_append, foldl_worst]
  rfl

/-- Where all states are the same, so is the worst of them. -/
theorem worstOrOk_of_forall_eq {s : State} {l : List State} (hne : l ≠ [])
    (h : ∀ a ∈ l, a = s) : worstOrOk l = s := by
  induction l with
  | nil => exact absurd rfl hne
  | cons a l ih =>
      rw [worstOrOk_cons, h a (List.mem_cons_self ..)]
      cases l with
      | nil => exact worst_ok s
      | cons b l =>
          rw [ih (by simp) fun x hx => h x (List.mem_cons_of_mem _ hx),
            worst_self]

/-- There is a worst state exactly where there are states, and it is the
same whether it may be missing or not. -/
theorem worstOf?_eq (l : List State) :
    worstOf? l = if l.isEmpty then none else some (worstOrOk l) := by
  cases l with
  | nil => rfl
  | cons s l =>
      show some (l.foldl worst s) = some (worstOrOk (s :: l))
      rw [worstOrOk_cons, foldl_worst]

/-- A state is the worst of some: it is one of them, or `ok` if there are
none, and none of them is worse. -/
def IsWorst (states : List State) (s : State) : Prop :=
  (∀ other ∈ states, other.rank ≤ s.rank)
    ∧ (s ∈ states ∨ states = [] ∧ s = ok)

/-- The worst of some states depends on nothing but which states there are. -/
theorem IsWorst.congr {states states' : List State} {s : State}
    (h : IsWorst states s) (hmem : ∀ a, a ∈ states ↔ a ∈ states') :
    IsWorst states' s := by
  refine ⟨fun other hother => h.1 other ((hmem other).mpr hother),
    h.2.imp (hmem s).mp ?_⟩
  rintro ⟨rfl, hok⟩
  exact ⟨List.eq_nil_iff_forall_not_mem.mpr fun a ha =>
    (by cases (hmem a).mpr ha), hok⟩

/-- What is computed as the worst of some states is the worst of them. -/
theorem worstOrOk_isWorst (states : List State) :
    IsWorst states (worstOrOk states) := by
  induction states with
  | nil => exact ⟨fun _ h => (by cases h), Or.inr ⟨rfl, rfl⟩⟩
  | cons a states ih =>
      obtain ⟨hbound, hmem⟩ := ih
      rw [worstOrOk_cons]
      refine ⟨fun other hother => ?_, Or.inl ?_⟩
      · rw [rank_worst]
        rcases List.mem_cons.mp hother with rfl | hother
        · exact Nat.le_max_left ..
        · exact Nat.le_trans (hbound other hother) (Nat.le_max_right ..)
      · rcases hmem with hmem | ⟨rfl, hok⟩
        · unfold worst
          split
          · exact List.mem_cons_of_mem _ hmem
          · exact List.mem_cons_self ..
        · rw [hok, worst_ok]
          exact List.mem_cons_self ..

/-- The worst of some states is `ok` exactly if all of them are. -/
theorem worstOrOk_eq_ok_iff {states : List State} :
    worstOrOk states = ok ↔ ∀ s ∈ states, s = ok := by
  constructor
  · intro h s hs
    have hrank := (worstOrOk_isWorst states).1 s hs
    rw [h] at hrank
    cases s with
    | ok => rfl
    | warn | crit | unknown => exact absurd hrank (by decide)
  · intro h
    by_cases hne : states = []
    · rw [hne]
      rfl
    · exact worstOrOk_of_forall_eq hne h

end State

-- ==================================================== outputs

namespace CheckOutput

theorem metrics_append (outputs more : List CheckOutput) :
    metrics (outputs ++ more) = metrics outputs ++ metrics more :=
  List.filterMap_append

theorem results_append (outputs more : List CheckOutput) :
    results (outputs ++ more) = results outputs ++ results more :=
  List.filterMap_append

end CheckOutput

-- ==================================================== the one result

/-- With sub-results the state is the worst of theirs, and the metrics
are all that were emitted. -/
theorem ServiceResult.ofOutputs_of_results {outputs : List CheckOutput}
    (h : CheckOutput.results outputs ≠ []) :
    (ServiceResult.ofOutputs outputs).state
        = State.worstOrOk ((CheckOutput.results outputs).map (·.state))
      ∧ (ServiceResult.ofOutputs outputs).metrics
        = CheckOutput.metrics outputs := by
  unfold ServiceResult.ofOutputs
  simp only
  rw [if_neg (by rw [List.isEmpty_iff]; exact h)]
  exact ⟨rfl, rfl⟩

/-- Without sub-results nothing was found, whatever metrics there are. -/
theorem ServiceResult.ofOutputs_of_no_results {outputs : List CheckOutput}
    (h : CheckOutput.results outputs = []) :
    ServiceResult.ofOutputs outputs = .itemNotFound := by
  unfold ServiceResult.ofOutputs
  simp only [h, List.isEmpty_nil, if_true]

/-- The state by which a node is compared with others is that of its own
one result. -/
theorem CheckOutput.worstState?_eq (outputs : List CheckOutput) :
    CheckOutput.worstState? outputs =
      if (CheckOutput.results outputs).isEmpty then none
      else some (ServiceResult.ofOutputs outputs).state := by
  unfold CheckOutput.worstState?
  rw [State.worstOf?_eq, List.isEmpty_map]
  split
  case isTrue => rfl
  case isFalse h =>
    rw [(ServiceResult.ofOutputs_of_results fun hnil =>
      h (by rw [hnil]; rfl)).1]

end HostWatch
