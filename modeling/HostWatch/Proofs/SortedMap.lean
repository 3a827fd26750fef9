/-
Maps read back: which keys, values and entries a map has, in terms of its
look-up, and what the look-up finds in a map that was made of a list.

The entries of a map carry its order, and the walks over sections and
nodes go by entries; the claims about them go by look-up. The lemmas here
cross between the two views. A list that holds one value for each of its
keys, however often a key occurs, makes the map one expects
(`get?_ofList_map`), so a plugin that declares a section twice does not
need a case of its own anywhere. Where the values differ the last one of a
key stays (`get?_ofList`, `get?_ofList_filterMap`).
-/
import HostWatch.SortedMap

namespace HostWatch.SortedMap

variable {κ : Type u} {ν : Type v} [Ord κ]

-- ==================================================== keys and values

/-- The keys come in increasing order. -/
theorem keys_sorted (m : SortedMap κ ν) :
    m.keys.Pairwise fun a b => compare a b = .lt := by
  unfold keys
  rw [List.pairwise_map]
  exact m.sorted

variable [Std.LawfulEqOrd κ]

/-- Nothing occurs twice in a list in strictly increasing order. -/
theorem nodup_of_sorted {keys : List κ}
    (h : keys.Pairwise fun a b => compare a b = .lt) : keys.Nodup := by
  refine h.imp fun {a b} hlt heq => ?_
  rw [heq] at hlt
  simp at hlt

/-- No key occurs twice. -/
theorem keys_nodup (m : SortedMap κ ν) : m.keys.Nodup :=
  nodup_of_sorted m.keys_sorted

/-- What is found in a list of entries is one of them. -/
theorem mem_of_find? {k : κ} {v : ν} {l : List (κ × ν)}
    (h : find? k l = some v) : (k, v) ∈ l := by
  induction l with
  | nil => cases h
  | cons e rest ih =>
      unfold find? at h
      split at h
      case isTrue hk =>
        injection h with h
        rw [Std.LawfulEqOrd.eq_of_compare hk, ← h]
        exact List.mem_cons_self ..
      case isFalse => exact List.mem_cons_of_mem _ (ih h)

theorem find?_of_not_mem {k : κ} {l : List (κ × ν)}
    (h : k ∉ l.map (·.1)) : find? k l = none := by
  rw [Option.eq_none_iff_forall_ne_some]
  intro v hv
  exact h (List.mem_map_of_mem (mem_of_find? hv))

variable [DecidableEq κ]

theorem find?_cons (k : κ) (e : κ × ν) (rest : List (κ × ν)) :
    find? k (e :: rest) = if k = e.1 then some e.2 else find? k rest := by
  show (if compare k e.1 = .eq then some e.2 else find? k rest) = _
  by_cases hk : k = e.1
  · rw [if_pos (by rw [hk]; simp), if_pos hk]
  · rw [if_neg fun heq => hk (Std.LawfulEqOrd.eq_of_compare heq), if_neg hk]

/-- A key of a map is one under which something is found. -/
theorem mem_keys {m : SortedMap κ ν} {k : κ} :
    k ∈ m.keys ↔ ∃ v, m.get? k = some v := by
  unfold keys
  rw [List.mem_map]
  constructor
  · rintro ⟨⟨k', v⟩, he, rfl⟩
    exact ⟨v, (mem_entries_iff m k' v).mp he⟩
  · rintro ⟨v, hv⟩
    exact ⟨(k, v), (mem_entries_iff m k v).mpr hv, rfl⟩

/-- A value of a map is one that is found under some key. -/
theorem mem_values {m : SortedMap κ ν} {v : ν} :
    v ∈ m.values ↔ ∃ k, m.get? k = some v := by
  unfold values
  rw [List.mem_map]
  constructor
  · rintro ⟨⟨k, v'⟩, he, rfl⟩
    exact ⟨k, (mem_entries_iff m k v').mp he⟩
  · rintro ⟨k, hk⟩
    exact ⟨(k, v), (mem_entries_iff m k v).mpr hk, rfl⟩

-- ==================================================== filter and map

/-- A filtered map finds what satisfies the filter. -/
theorem get?_filter (p : κ → ν → Bool) (m : SortedMap κ ν) (k : κ) :
    (m.filter p).get? k = (m.get? k).filter (p k) := by
  refine Option.ext fun v => ?_
  rw [← mem_entries_iff, Option.filter_eq_some_iff, ← mem_entries_iff]
  exact List.mem_filter

/-- A mapped map finds the images of what was found before. -/
theorem get?_map {μ : Type w} (f : κ → ν → μ) (m : SortedMap κ ν) (k : κ) :
    (m.map f).get? k = (m.get? k).map (f k) := by
  refine Option.ext fun v => ?_
  rw [← mem_entries_iff, Option.map_eq_some_iff]
  unfold map
  rw [List.mem_map]
  constructor
  · rintro ⟨⟨k', w⟩, he, heq⟩
    injection heq with h1 h2
    subst h1 h2
    exact ⟨w, (mem_entries_iff m k' w).mp he, rfl⟩
  · rintro ⟨w, hw, rfl⟩
    exact ⟨(k, w), (mem_entries_iff m k w).mpr hw, rfl⟩

/-- A search through the entries finds the one with the least key of those
that it looks for. -/
theorem find?_entries_eq_some_iff [Std.OrientedOrd κ] {m : SortedMap κ ν}
    {p : κ × ν → Bool} {k : κ} {v : ν} :
    m.entries.find? p = some (k, v)
      ↔ m.get? k = some v ∧ p (k, v) = true
        ∧ ∀ k' v', m.get? k' = some v' → p (k', v') = true →
          compare k k' ≠ .gt := by
  rw [List.find?_eq_some_iff_append]
  constructor
  · rintro ⟨hp, before, after, hsplit, hbefore⟩
    refine ⟨(mem_entries_iff m k v).mp (by rw [hsplit]; simp), hp, ?_⟩
    intro k' v' hk' hp'
    have hsorted := m.sorted
    have hmem := (mem_entries_iff m k' v').mpr hk'
    rw [hsplit] at hsorted hmem
    rcases List.mem_append.mp hmem with hmem | hmem
    · -- what stands before is not looked for
      have hnot := hbefore _ hmem
      rw [hp'] at hnot
      cases hnot
    · rcases List.mem_cons.mp hmem with heq | hmem
      · rw [(Prod.mk.inj heq).1, Std.ReflOrd.compare_self]
        decide
      · have hlater := (List.pairwise_append.mp hsorted).2.1
        rw [(List.pairwise_cons.mp hlater).1 _ hmem]
        decide
  · rintro ⟨hk, hp, hleast⟩
    obtain ⟨before, after, hsplit⟩ :=
      List.append_of_mem ((mem_entries_iff m k v).mpr hk)
    refine ⟨hp, before, after, hsplit, ?_⟩
    rintro ⟨k', v'⟩ hmem
    have hsorted := m.sorted
    rw [hsplit] at hsorted
    have hlt : compare k' k = .lt :=
      (List.pairwise_append.mp hsorted).2.2 _ hmem _ (List.mem_cons_self ..)
    have hk' : m.get? k' = some v' := by
      rw [← mem_entries_iff, hsplit]
      exact List.mem_append_left _ hmem
    cases hp' : p (k', v') with
    | false => rfl
    | true =>
        exact absurd (Std.OrientedCmp.gt_of_lt hlt) (hleast k' v' hk' hp')

/-- A key may be left out of a walk to which its value adds nothing. -/
theorem flatMap_values_erase {β : Type w} {m : SortedMap κ ν} {k : κ}
    {f : ν → List β} (h : ∀ v, m.get? k = some v → f v = []) :
    (m.erase k).values.flatMap f = m.values.flatMap f := by
  suffices hentries : ∀ entries : List (κ × ν),
      (∀ e ∈ entries, e.1 = k → f e.2 = []) →
      (entries.filter fun e => compare k e.1 != .eq).flatMap (f ·.2)
        = entries.flatMap (f ·.2) by
    unfold values
    rw [List.flatMap_map, List.flatMap_map]
    refine hentries m.entries fun e he hk => h e.2 ?_
    rw [← hk, ← mem_entries_iff]
    exact he
  intro entries hnil
  induction entries with
  | nil => rfl
  | cons e rest ih =>
      have hrest := ih fun e he => hnil e (List.mem_cons_of_mem _ he)
      by_cases hk : e.1 = k
      · rw [List.filter_cons_of_neg (by simp [hk]), List.flatMap_cons,
          hnil e List.mem_cons_self hk, hrest, List.nil_append]
      · rw [List.filter_cons_of_pos (by simpa using Ne.symm hk),
          List.flatMap_cons, List.flatMap_cons, hrest]

-- ==================================================== maps without entries

/-- A map has no entries exactly if nothing is found in it. -/
theorem isEmpty_iff {m : SortedMap κ ν} :
    m.isEmpty = true ↔ ∀ k, m.get? k = none := by
  unfold isEmpty
  rw [List.isEmpty_iff, List.eq_nil_iff_forall_not_mem]
  constructor
  · intro h k
    rw [Option.eq_none_iff_forall_ne_some]
    exact fun v hv => h (k, v) ((mem_entries_iff m k v).mpr hv)
  · rintro h ⟨k, v⟩ he
    rw [mem_entries_iff, h k] at he
    cases he

variable [Std.TransOrd κ]

/-- The keys of a map are determined by which they are. -/
theorem keys_eq_iff {m m' : SortedMap κ ν} :
    m.keys = m'.keys ↔ ∀ k, k ∈ m.keys ↔ k ∈ m'.keys := by
  -- the keys are those of the map that forgets its values
  have hkeys : ∀ m : SortedMap κ ν, (m.map fun _ _ => ()).keys = m.keys := by
    intro m
    unfold keys map
    rw [List.map_map]
    rfl
  constructor
  · intro h k
    rw [h]
  · intro h
    rw [← hkeys m, ← hkeys m']
    refine congrArg keys (ext_get? fun k => Option.ext fun _ => ?_)
    have hk := h k
    rw [mem_keys, mem_keys] at hk
    rw [get?_map, get?_map, Option.map_eq_some_iff, Option.map_eq_some_iff]
    simpa using hk

-- ==================================================== maps of lists

/-- Laying entries over a map changes nothing under keys that they do
not have. -/
theorem get?_foldl_insert_of_not_mem {l : List (κ × ν)} {k : κ} :
    ∀ {m : SortedMap κ ν}, k ∉ l.map (·.1) →
      (l.foldl (fun m e => m.insert e.1 e.2) m).get? k = m.get? k := by
  induction l with
  | nil => intro m _; rfl
  | cons e rest ih =>
      intro m hk
      rw [List.map_cons, List.mem_cons, not_or] at hk
      rw [List.foldl_cons, ih hk.2, get?_insert, if_neg hk.1]

/-- Entries with pairwise different keys, each combined with what a map has
under its key, meet what was there before the first of them. -/
theorem get?_foldl_combine {μ : Type w} (f : Option μ → ν → μ)
    {l : List (κ × ν)} {k : κ} :
    ∀ {m : SortedMap κ μ}, (l.map (·.1)).Nodup →
      (l.foldl (fun m e => m.insert e.1 (f (m.get? e.1) e.2)) m).get? k
        = ((find? k l).map (f (m.get? k))).or (m.get? k) := by
  induction l with
  | nil => intro m _; rfl
  | cons e rest ih =>
      intro m hnodup
      rw [List.map_cons, List.nodup_cons] at hnodup
      rw [List.foldl_cons, ih hnodup.2, get?_insert, find?_cons]
      by_cases hk : k = e.1
      · -- the key does not come again
        rw [if_pos hk, if_pos hk, hk, find?_of_not_mem hnodup.1]
        rfl
      · rw [if_neg hk, if_neg hk]

/-- What is found after laying entries over a map is one of them, or was
there before. -/
theorem get?_foldl_insert {l : List (κ × ν)} {k : κ} {v : ν} :
    ∀ {m : SortedMap κ ν},
      (l.foldl (fun m e => m.insert e.1 e.2) m).get? k = some v →
      (k, v) ∈ l ∨ m.get? k = some v := by
  induction l with
  | nil => intro m h; exact Or.inr h
  | cons e rest ih =>
      intro m h
      rw [List.foldl_cons] at h
      rcases ih h with hmem | hget
      · exact Or.inl (List.mem_cons_of_mem _ hmem)
      · rw [get?_insert] at hget
        split at hget
        case isTrue hk =>
          injection hget with hv
          subst hk hv
          exact Or.inl (List.mem_cons_self ..)
        case isFalse => exact Or.inr hget

/-- What is found in the map of a list is an entry of the list. -/
theorem mem_of_get?_ofList {l : List (κ × ν)} {k : κ} {v : ν}
    (h : (ofList l).get? k = some v) : (k, v) ∈ l := by
  rcases get?_foldl_insert h with hmem | hget
  · exact hmem
  · rw [get?_empty] at hget
    cases hget

/-- A key of a list finds something in the map of the list. -/
theorem get?_ofList_isSome {l : List (κ × ν)} {k : κ} (h : k ∈ l.map (·.1)) :
    ((ofList l).get? k).isSome = true := by
  suffices key : ∀ (l : List (κ × ν)) (m : SortedMap κ ν), k ∈ l.map (·.1) →
      ((l.foldl (fun m e => m.insert e.1 e.2) m).get? k).isSome = true from
    key l empty h
  intro l
  induction l with
  | nil => intro m h; cases h
  | cons e rest ih =>
      intro m h
      rw [List.foldl_cons]
      by_cases hrest : k ∈ rest.map (·.1)
      · exact ih _ hrest
      · -- the last entry of the key is the one at the head
        rw [List.map_cons, List.mem_cons] at h
        rcases h with rfl | h
        · rw [get?_foldl_insert_of_not_mem hrest, get?_insert, if_pos rfl]
          rfl
        · exact absurd h hrest

/-- A map that was made of some entries has some. -/
theorem entries_ofList_ne_nil {e : κ × ν} {l : List (κ × ν)} :
    (ofList (e :: l)).entries ≠ [] := by
  have hsome := get?_ofList_isSome (l := e :: l)
    (List.mem_map_of_mem (List.mem_cons_self ..))
  obtain ⟨v, hv⟩ := Option.isSome_iff_exists.mp hsome
  have hmem := (mem_entries_iff _ _ _).mpr hv
  intro hnil
  rw [hnil] at hmem
  cases hmem

/-- Where a list holds one value for each of its keys, its map finds that
value under the keys and nothing elsewhere. -/
theorem get?_ofList_map (f : κ → ν) (keys : List κ) (k : κ) :
    (ofList (keys.map fun k => (k, f k))).get? k
      = if k ∈ keys then some (f k) else none := by
  have hkeys : (keys.map fun k => (k, f k)).map (·.1) = keys := by
    rw [List.map_map]
    exact List.map_id _
  by_cases hk : k ∈ keys
  · rw [if_pos hk]
    have hsome := get?_ofList_isSome (l := keys.map fun k => (k, f k))
      (by rw [hkeys]; exact hk)
    obtain ⟨v, hv⟩ := Option.isSome_iff_exists.mp hsome
    obtain ⟨k', -, hk'⟩ := List.mem_map.mp (mem_of_get?_ofList hv)
    injection hk' with h1 h2
    subst h1 h2
    exact hv
  · rw [if_neg hk]
    unfold ofList
    rw [get?_foldl_insert_of_not_mem (by rw [hkeys]; exact hk)]
    rfl

/-- The keys of the map of a list are those of the list. -/
theorem mem_keys_ofList {l : List (κ × ν)} {k : κ} :
    k ∈ (ofList l).keys ↔ k ∈ l.map (·.1) := by
  rw [mem_keys]
  constructor
  · rintro ⟨v, hv⟩
    exact List.mem_map_of_mem (mem_of_get?_ofList hv)
  · exact fun h => Option.isSome_iff_exists.mp (get?_ofList_isSome h)

/-- Where no key of a list has two values, its map finds the entries of the
list and nothing else. -/
theorem get?_ofList_iff {l : List (κ × ν)}
    (hl : ∀ k v v', (k, v) ∈ l → (k, v') ∈ l → v = v') {k : κ} {v : ν} :
    (ofList l).get? k = some v ↔ (k, v) ∈ l := by
  constructor
  · exact mem_of_get?_ofList
  · intro h
    obtain ⟨v', hv'⟩ :=
      Option.isSome_iff_exists.mp (get?_ofList_isSome (List.mem_map_of_mem h))
    rw [hv', hl k v' v (mem_of_get?_ofList hv') h]

/-- Where no key of a list has two values, its map depends on nothing but what
the entries are. -/
theorem ofList_congr {l l' : List (κ × ν)}
    (hl : ∀ k v v', (k, v) ∈ l → (k, v') ∈ l → v = v')
    (h : ∀ e, e ∈ l ↔ e ∈ l') : ofList l = ofList l' := by
  have hl' : ∀ k v v', (k, v) ∈ l' → (k, v') ∈ l' → v = v' :=
    fun k v v' hv hv' => hl k v v' ((h _).mpr hv) ((h _).mpr hv')
  refine ext_get? fun k => Option.ext fun v => ?_
  rw [get?_ofList_iff hl, get?_ofList_iff hl', h]

/-- The map of the entries of a map is the map itself. -/
theorem ofList_entries (m : SortedMap κ ν) : ofList m.entries = m := by
  refine ext_get? fun k => Option.ext fun v => ?_
  rw [get?_ofList_iff, mem_entries_iff]
  intro k v v' hv hv'
  rw [mem_entries_iff] at hv hv'
  rw [hv] at hv'
  exact Option.some.inj hv'

/-- Of the values that are laid over a map under a key the last one is found,
and what was there before if there is none. -/
private theorem get?_foldl_insert_eq {l : List (κ × ν)} {k : κ} :
    ∀ {m : SortedMap κ ν}, (l.foldl (fun m e => m.insert e.1 e.2) m).get? k
      = ((l.reverse.find? (·.1 == k)).map (·.2)).or (m.get? k) := by
  induction l with
  | nil => intro m; rfl
  | cons e rest ih =>
      intro m
      rw [List.foldl_cons, ih, get?_insert, List.reverse_cons,
        List.find?_append, List.find?_singleton]
      cases rest.reverse.find? (·.1 == k) with
      | some later => rfl
      | none =>
          by_cases hk : k = e.1
          · simp [hk]
          · simp [hk, Ne.symm hk]

/-- Of the values of a key in a list, its map finds the last one. -/
theorem get?_ofList (l : List (κ × ν)) (k : κ) :
    (ofList l).get? k = (l.reverse.find? (·.1 == k)).map (·.2) := by
  rw [ofList, get?_foldl_insert_eq, get?_empty, Option.or_none]

/-- Of the entries that the items of a list give, its map finds the one of the
last item that gives one under the key. -/
theorem get?_ofList_filterMap {α : Type w} {f : α → Option (κ × ν)}
    {items : List α} {k : κ} {v : ν} :
    (ofList (items.filterMap f)).get? k = some v
      ↔ ∃ before item after, items = before ++ item :: after
        ∧ f item = some (k, v)
        ∧ ∀ later ∈ after, ∀ w, f later ≠ some (k, w) := by
  have hgives : ∀ item, (f item).any (·.1 == k) = true
      ↔ ∃ w, f item = some (k, w) := by
    intro item
    rcases f item with _ | ⟨k', w⟩
    · simp
    · simp
  rw [get?_ofList, ← List.filterMap_reverse, List.find?_filterMap]
  simp only [Option.map_eq_some_iff, Option.bind_eq_some_iff,
    List.find?_eq_some_iff_append, Bool.not_eq_true', Bool.eq_false_iff, ne_eq,
    hgives, not_exists]
  constructor
  · rintro ⟨e, ⟨item, ⟨⟨w, hw⟩, after, before, hsplit, hafter⟩, he⟩, rfl⟩
    have hitems := congrArg List.reverse hsplit
    rw [List.reverse_reverse, List.reverse_append, List.reverse_cons,
      List.append_assoc, List.singleton_append] at hitems
    rw [hw] at he
    cases he
    exact ⟨_, item, _, hitems, hw,
      fun later hlater => hafter later (List.mem_reverse.mp hlater)⟩
  · rintro ⟨before, item, after, rfl, hitem, hafter⟩
    exact ⟨(k, v), ⟨item, ⟨⟨v, hitem⟩, after.reverse, before.reverse, by simp,
      fun later hlater => hafter later (List.mem_reverse.mp hlater)⟩, hitem⟩,
      rfl⟩

/-- What is laid over a map wins. -/
theorem get?_overlay (m top : SortedMap κ ν) (k : κ) :
    (m.overlay top).get? k = (top.get? k).or (m.get? k) := by
  have htop : top.get? k = (top.entries.reverse.find? (·.1 == k)).map (·.2) := by
    rw [← get?_ofList, ofList_entries]
  rw [overlay, get?_foldl_insert_eq, htop]

theorem isEmpty_overlay (m top : SortedMap κ ν) :
    (m.overlay top).isEmpty = (m.isEmpty && top.isEmpty) := by
  rw [Bool.eq_iff_iff, Bool.and_eq_true, isEmpty_iff, isEmpty_iff, isEmpty_iff]
  simp only [get?_overlay, Option.or_eq_none_iff]
  exact ⟨fun h => ⟨fun k => (h k).2, fun k => (h k).1⟩,
    fun h k => ⟨h.2 k, h.1 k⟩⟩

/-- The values for which `f` has an image are found under their keys. -/
theorem get?_filterMap {μ : Type w} (f : κ → ν → Option μ)
    (m : SortedMap κ ν) (k : κ) :
    (m.filterMap f).get? k = (m.get? k).bind (f k) := by
  have hmem : ∀ k w, (k, w) ∈ (m.entries.filterMap fun e =>
      (f e.1 e.2).map (e.1, ·)) ↔ ∃ v, m.get? k = some v ∧ f k v = some w := by
    intro k w
    rw [List.mem_filterMap]
    constructor
    · rintro ⟨⟨k', v⟩, he, heq⟩
      obtain ⟨w', hw', heq⟩ := Option.map_eq_some_iff.mp heq
      injection heq with h1 h2
      subst h1 h2
      exact ⟨v, (mem_entries_iff m k' v).mp he, hw'⟩
    · rintro ⟨v, hv, hw⟩
      exact ⟨(k, v), (mem_entries_iff m k v).mpr hv,
        Option.map_eq_some_iff.mpr ⟨w, hw, rfl⟩⟩
  refine Option.ext fun w => ?_
  unfold filterMap
  rw [get?_ofList_iff, hmem, Option.bind_eq_some_iff]
  intro k w w' hw hw'
  obtain ⟨v, hv, hfv⟩ := (hmem k w).mp hw
  obtain ⟨v', hv', hfv'⟩ := (hmem k w').mp hw'
  rw [hv] at hv'
  cases hv'
  rw [hfv] at hfv'
  exact Option.some.inj hfv'

end HostWatch.SortedMap
