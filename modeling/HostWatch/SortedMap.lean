/-
Finite maps whose entries are kept in strictly increasing key order.

Every collection that the engine walks in a fixed order is one of these:
sections by name, nodes by name, providers by host key, stored values by
namespace. The order is part of the type, so two maps with the same
look-ups are equal (`SortedMap.ext_get?`) and a walk over `entries` needs
no sorting step.

Look-up is the view: each operation comes with one equation for `get?`.
-/

namespace HostWatch

/-- A finite map from `κ` to `ν`, its entries in strictly increasing key order. -/
structure SortedMap (κ : Type u) (ν : Type v) [Ord κ] where
  /-- The entries, smallest key first. -/
  entries : List (κ × ν)
  sorted : entries.Pairwise fun a b => compare a.1 b.1 = .lt

namespace SortedMap

-- ============================================= entries as plain lists

variable {κ : Type u} {ν : Type v} [Ord κ]

/-- The value that a list of entries holds under `k`, the first one found. -/
def find? (k : κ) : List (κ × ν) → Option ν
  | [] => none
  | e :: rest => if compare k e.1 = .eq then some e.2 else find? k rest

/-- Puts `v` under `k` into a sorted list, replacing an entry of that key. -/
def insertInto (k : κ) (v : ν) : List (κ × ν) → List (κ × ν)
  | [] => [(k, v)]
  | e :: rest =>
    match compare k e.1 with
    | .lt => (k, v) :: e :: rest
    | .eq => (k, v) :: rest
    | .gt => e :: insertInto k v rest

theorem mem_insertInto {k : κ} {v : ν} {l : List (κ × ν)} {x : κ × ν}
    (h : x ∈ insertInto k v l) : x = (k, v) ∨ x ∈ l := by
  induction l with
  | nil => simpa [insertInto] using h
  | cons e rest ih =>
    unfold insertInto at h
    split at h <;> simp only [List.mem_cons] at h ⊢ <;> grind

section Order

variable [Std.TransOrd κ]

theorem insertInto_sorted {k : κ} {v : ν} {l : List (κ × ν)}
    (h : l.Pairwise fun a b => compare a.1 b.1 = .lt) :
    (insertInto k v l).Pairwise fun a b => compare a.1 b.1 = .lt := by
  induction l with
  | nil => simp [insertInto]
  | cons e rest ih =>
    obtain ⟨he, hr⟩ := List.pairwise_cons.mp h
    unfold insertInto
    split
    · rename_i hlt
      refine List.pairwise_cons.mpr ⟨?_, h⟩
      intro x hx
      rcases List.mem_cons.mp hx with rfl | hx
      · exact hlt
      · exact Std.TransCmp.lt_trans hlt (he x hx)
    · rename_i heq
      refine List.pairwise_cons.mpr ⟨?_, hr⟩
      intro x hx
      exact Std.TransCmp.lt_of_eq_of_lt heq (he x hx)
    · rename_i hgt
      refine List.pairwise_cons.mpr ⟨?_, ih hr⟩
      intro x hx
      rcases mem_insertInto hx with rfl | hx
      · exact Std.OrientedCmp.lt_of_gt hgt
      · exact he x hx

end Order

-- ============================================= maps

/-- The map without entries. -/
def empty : SortedMap κ ν := ⟨[], .nil⟩

instance : EmptyCollection (SortedMap κ ν) := ⟨empty⟩
instance : Inhabited (SortedMap κ ν) := ⟨empty⟩

/-- The value under `k`. -/
def get? (m : SortedMap κ ν) (k : κ) : Option ν := find? k m.entries

/-- Whether some entry has the key `k`. -/
def contains (m : SortedMap κ ν) (k : κ) : Bool := (m.get? k).isSome

/-- The keys in increasing order. -/
def keys (m : SortedMap κ ν) : List κ := m.entries.map (·.1)

/-- The values in the order of their keys. -/
def values (m : SortedMap κ ν) : List ν := m.entries.map (·.2)

/-- The number of entries. -/
def size (m : SortedMap κ ν) : Nat := m.entries.length

/-- Whether there is no entry. -/
def isEmpty (m : SortedMap κ ν) : Bool := m.entries.isEmpty

/-- The entries that satisfy `p`. -/
def filter (p : κ → ν → Bool) (m : SortedMap κ ν) : SortedMap κ ν :=
  ⟨m.entries.filter fun e => p e.1 e.2, m.sorted.filter _⟩

/-- The map without the key `k`. -/
def erase (m : SortedMap κ ν) (k : κ) : SortedMap κ ν :=
  m.filter fun k' _ => compare k k' != .eq

/-- Every value replaced by its image, which may depend on the key. -/
def map {μ : Type w} (f : κ → ν → μ) (m : SortedMap κ ν) : SortedMap κ μ :=
  ⟨m.entries.map fun e => (e.1, f e.1 e.2),
    List.pairwise_map.mpr (m.sorted.imp fun h => h)⟩

section Order

variable [Std.TransOrd κ]

/-- The map with `v` under `k`. -/
def insert (m : SortedMap κ ν) (k : κ) (v : ν) : SortedMap κ ν :=
  ⟨insertInto k v m.entries, insertInto_sorted m.sorted⟩

/-- The map with the values of a list, of which the last under a key stays. -/
def ofList (l : List (κ × ν)) : SortedMap κ ν :=
  l.foldl (fun m e => m.insert e.1 e.2) empty

/-- The map `m` with `top` laid over it, whose values win. -/
def overlay (m top : SortedMap κ ν) : SortedMap κ ν :=
  top.entries.foldl (fun acc e => acc.insert e.1 e.2) m

/-- The values for which `f` has an image, under the same keys. -/
def filterMap {μ : Type w} (f : κ → ν → Option μ) (m : SortedMap κ ν) : SortedMap κ μ :=
  ofList (m.entries.filterMap fun e => (f e.1 e.2).map (e.1, ·))

end Order

-- ============================================= look-up after each operation

@[simp] theorem get?_empty (k : κ) : (empty : SortedMap κ ν).get? k = none := rfl

section Lookup

variable [Std.LawfulEqOrd κ]

private theorem compare_eq_iff (k k' : κ) : compare k k' = .eq ↔ k = k' :=
  ⟨Std.LawfulEqOrd.eq_of_compare, fun h => by simp [h]⟩

private theorem find?_insertInto [DecidableEq κ] (k k' : κ) (v : ν) (l : List (κ × ν)) :
    find? k' (insertInto k v l) = if k' = k then some v else find? k' l := by
  induction l with
  | nil => simp [insertInto, find?]
  | cons e rest ih =>
    unfold insertInto
    split
    · simp [find?]
    · rename_i heq
      have := Std.LawfulEqOrd.eq_of_compare heq
      subst this
      simp only [find?, compare_eq_iff]
      split <;> simp_all
    · rename_i hgt
      simp only [find?, ih, compare_eq_iff]
      by_cases h : k' = e.1
      · have hne : ¬ e.1 = k := fun he => by simp [he] at hgt
        simp [h, hne]
      · simp [h]

private theorem find?_filter_ne [DecidableEq κ] (k k' : κ) (l : List (κ × ν)) :
    find? k' (l.filter fun e => compare k e.1 != .eq) =
      if k' = k then none else find? k' l := by
  induction l with
  | nil => simp [find?]
  | cons e rest ih =>
    by_cases hk : k = e.1
    · have hc : (compare k e.1 != .eq) = false := by simp [hk]
      rw [List.filter_cons_of_neg (by simp [hc]), ih]
      by_cases h : k' = k
      · simp [h]
      · have : ¬ k' = e.1 := hk ▸ h
        simp [find?, h, this]
    · rw [List.filter_cons_of_pos (by simpa using hk)]
      simp only [find?, ih, compare_eq_iff]
      by_cases h : k' = e.1
      · have hne : ¬ e.1 = k := fun he => hk he.symm
        simp [h, hne]
      · simp [h]

theorem get?_erase [DecidableEq κ] (m : SortedMap κ ν) (k k' : κ) :
    (m.erase k).get? k' = if k' = k then none else m.get? k' :=
  find?_filter_ne k k' m.entries

theorem mem_entries_iff [DecidableEq κ] (m : SortedMap κ ν) (k : κ) (v : ν) :
    (k, v) ∈ m.entries ↔ m.get? k = some v := by
  obtain ⟨l, hl⟩ := m
  show (k, v) ∈ l ↔ find? k l = some v
  induction l with
  | nil => simp [find?]
  | cons e rest ih =>
    obtain ⟨he, hr⟩ := List.pairwise_cons.mp hl
    simp only [find?, compare_eq_iff, List.mem_cons]
    by_cases hk : k = e.1
    · subst hk
      have hn : (e.1, v) ∉ rest := fun hm => by simpa using he _ hm
      simp only [hn, or_false, ↓reduceIte, Option.some.injEq]
      exact ⟨fun hv => by rw [← hv], fun hv => by rw [← hv]⟩
    · have : ¬ (k, v) = e := fun h => hk (by rw [← h])
      simp [hk, this, ih hr]

variable [Std.TransOrd κ]

theorem get?_insert [DecidableEq κ] (m : SortedMap κ ν) (k k' : κ) (v : ν) :
    (m.insert k v).get? k' = if k' = k then some v else m.get? k' :=
  find?_insertInto k k' v m.entries

private theorem sorted_ext {l l' : List (κ × ν)}
    (h : l.Pairwise fun a b => compare a.1 b.1 = .lt)
    (h' : l'.Pairwise fun a b => compare a.1 b.1 = .lt)
    (hm : ∀ e, e ∈ l ↔ e ∈ l') : l = l' := by
  induction l generalizing l' with
  | nil =>
    cases l' with
    | nil => rfl
    | cons e r => exact absurd ((hm e).mpr (by simp)) (by simp)
  | cons a r ih =>
    cases l' with
    | nil => exact absurd ((hm a).mp (by simp)) (by simp)
    | cons b r' =>
      obtain ⟨ha, hr⟩ := List.pairwise_cons.mp h
      obtain ⟨hb, hr'⟩ := List.pairwise_cons.mp h'
      have hab : a = b := by
        rcases List.mem_cons.mp ((hm a).mp (by simp)) with e | hmem
        · exact e
        · rcases List.mem_cons.mp ((hm b).mpr (by simp)) with e | hmem'
          · exact e.symm
          · have h1 := ha b hmem'
            have h2 := Std.OrientedCmp.gt_of_lt (hb a hmem)
            rw [h1] at h2
            cases h2
      subst hab
      have irrefl : ∀ x ∈ r, x ≠ a := fun x hx e => by simpa [e] using ha x hx
      have irrefl' : ∀ x ∈ r', x ≠ a := fun x hx e => by simpa [e] using hb x hx
      rw [ih hr hr' fun e => ?_]
      constructor
      · intro he
        rcases List.mem_cons.mp ((hm e).mp (by simp [he])) with rfl | hx
        · exact absurd rfl (irrefl _ he)
        · exact hx
      · intro he
        rcases List.mem_cons.mp ((hm e).mpr (by simp [he])) with rfl | hx
        · exact absurd rfl (irrefl' _ he)
        · exact hx

/-- Maps with the same look-ups are equal. -/
theorem ext_get? [DecidableEq κ] {m m' : SortedMap κ ν} (h : ∀ k, m.get? k = m'.get? k) :
    m = m' := by
  have : m.entries = m'.entries := sorted_ext m.sorted m'.sorted fun e => by
    rw [show e = (e.1, e.2) from rfl, mem_entries_iff, mem_entries_iff, h]
  cases m; cases m'; simpa using this

end Lookup

end SortedMap

end HostWatch
