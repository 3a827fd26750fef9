/-
Steps that may fail, and lists that are walked with such a step.

Steps one after the other go through if each of them does, from the result
of the one before (`bind_eq_ok_iff`). A walk goes through if the step does
at every item, and then its results stand beside the items
(`mapM_eq_ok_iff`). So two steps may be compared item by item, and the
configuration of many things is read exactly if that of each of them is.
-/
import Mathlib.Data.List.Forall2

namespace HostWatch

variable {α β ε : Type}

/-- Two steps go through if the second one does from the result of the
first. -/
theorem bind_eq_ok_iff {first : Except ε α} {next : α → Except ε β} {b : β} :
    first >>= next = .ok b ↔ ∃ a, first = .ok a ∧ next a = .ok b := by
  cases first with
  | error e =>
      constructor
      · intro h
        cases h
      · rintro ⟨a, h, -⟩
        cases h
  | ok a =>
      constructor
      · intro h
        exact ⟨a, rfl, h⟩
      · rintro ⟨a', h, hnext⟩
        cases h
        exact hnext

theorem map_eq_ok_iff {f : α → β} {result : Except ε α} {b : β} :
    result.map f = .ok b ↔ ∃ a, result = .ok a ∧ f a = b := by
  have hmap : result.map f = result >>= fun a => .ok (f a) := by
    cases result <;> rfl
  rw [hmap, bind_eq_ok_iff]
  simp only [Except.ok.injEq]

/-- A walk goes through with the results of its items. -/
theorem mapM_eq_ok_iff {f : α → Except ε β} {items : List α} :
    ∀ {results : List β}, items.mapM f = .ok results
      ↔ List.Forall₂ (fun a b => f a = .ok b) items results := by
  induction items with
  | nil =>
      intro results
      rw [List.forall₂_nil_left_iff, List.mapM_nil]
      constructor
      · intro h
        cases h
        rfl
      · rintro rfl
        rfl
  | cons a rest ih =>
      intro results
      rw [List.forall₂_cons_left_iff, List.mapM_cons, bind_eq_ok_iff]
      simp only [bind_eq_ok_iff, ih]
      constructor
      · rintro ⟨b, hb, later, hlater, h⟩
        cases h
        exact ⟨b, later, hb, hlater, rfl⟩
      · rintro ⟨b, later, hb, hlater, rfl⟩
        exact ⟨b, hb, later, hlater, rfl⟩

/-- What goes through with one operation goes through with another one that
agrees with it wherever it does. -/
theorem mapM_ok_mono {f g : α → Except ε β}
    (hfg : ∀ a b, f a = .ok b → g a = .ok b) {items : List α}
    {results : List β} (h : items.mapM f = .ok results) :
    items.mapM g = .ok results := by
  rw [mapM_eq_ok_iff] at h ⊢
  exact h.imp hfg

/-- The results of a walk are those of its items. -/
theorem mem_of_mapM_ok {f : α → Except ε β} {items : List α} {results : List β}
    (h : items.mapM f = .ok results) {b : β} :
    b ∈ results ↔ ∃ a ∈ items, f a = .ok b := by
  rw [mapM_eq_ok_iff] at h
  induction h with
  | nil => simp
  | @cons a b' rest later hfirst _ ih =>
      have hb : f a = .ok b ↔ b = b' := by
        rw [hfirst]
        exact ⟨fun h => (by cases h; rfl), fun h => by rw [h]⟩
      simp only [List.mem_cons, exists_eq_or_imp, hb, ih]

/-- A walk goes through only if every item does. -/
theorem exists_ok_of_mapM_ok {f : α → Except ε β} {items : List α}
    {results : List β} (h : items.mapM f = .ok results) {a : α}
    (ha : a ∈ items) : ∃ b, f a = .ok b := by
  rw [mapM_eq_ok_iff] at h
  induction h with
  | nil => cases ha
  | cons hfirst _ ih =>
      rcases List.mem_cons.mp ha with rfl | ha
      · exact ⟨_, hfirst⟩
      · exact ih ha

/-- A walk goes through if every item does. -/
theorem exists_mapM_ok {f : α → Except ε β} {items : List α}
    (h : ∀ a ∈ items, ∃ b, f a = .ok b) :
    ∃ results, items.mapM f = .ok results := by
  simp only [mapM_eq_ok_iff]
  induction items with
  | nil => exact ⟨[], .nil⟩
  | cons a rest ih =>
      obtain ⟨b, hb⟩ := h a (List.mem_cons_self ..)
      obtain ⟨later, hlater⟩ := ih fun a ha => h a (List.mem_cons_of_mem _ ha)
      exact ⟨b :: later, .cons hb hlater⟩

end HostWatch
