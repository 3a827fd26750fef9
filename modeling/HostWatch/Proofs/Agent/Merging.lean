/-
The sections of several sources, joined.

Seen from one name, joining is two small operations on what the two sides
have: the rows follow one another, and of two ages the older one stays, the
first one if they are equally old (`get?_sections_extend`,
`get?_cacheInfo_extend`). Both are associative, the second one although it
is not commutative, and on sections all of whose ages belong to a section that
is there (`Covered`) joining is so, too, with the empty sections at both of its
ends (`empty_extend`, `extend_empty`, `extend_assoc`). Where an age is known of
a section that is not there the law breaks: joining reads the ages of the
other side by the sections of that side.

So a list of sources is joined from either end (`join_cons`), and what is
joined can be said outright (`IsJoined`): the rows of all sources in order, and
of all ages the first one of those that are oldest.
-/
import HostWatch.Proofs.Agent.Grouping

namespace HostWatch

-- ==================================================== one age

/-- Of three ages the first one of those that are oldest stays, whichever two
are compared first. -/
instance : Std.Associative CacheInfo.older where
  assoc a b c := by
    unfold CacheInfo.older
    by_cases hab : b.retrievalTime < a.retrievalTime
    · by_cases hbc : c.retrievalTime < b.retrievalTime
      · have hac : c.retrievalTime < a.retrievalTime := by omega
        simp [hab, hbc, hac]
      · simp [hab, hbc]
    · by_cases hbc : c.retrievalTime < b.retrievalTime
      · simp [hab, hbc]
      · have hac : ¬ c.retrievalTime < a.retrievalTime := by omega
        simp [hab, hbc, hac]

/-- An age is the oldest one of some, and the first one of those. -/
def IsOldest (infos : List CacheInfo) (info : CacheInfo) : Prop :=
  ∃ before after, infos = before ++ info :: after
    ∧ (∀ other ∈ before, info.retrievalTime < other.retrievalTime)
    ∧ ∀ other ∈ after, info.retrievalTime ≤ other.retrievalTime

/-- The only age is the oldest one. -/
theorem isOldest_singleton (info : CacheInfo) : IsOldest [info] info :=
  ⟨[], [], rfl, List.forall_mem_nil _, List.forall_mem_nil _⟩

/-- The oldest one of some ages is as old as each of them. -/
theorem IsOldest.le {infos : List CacheInfo} {info other : CacheInfo}
    (h : IsOldest infos info) (hother : other ∈ infos) :
    info.retrievalTime ≤ other.retrievalTime := by
  obtain ⟨before, after, rfl, hbefore, hafter⟩ := h
  rcases List.mem_append.mp hother with hmem | hmem
  · exact Int.le_of_lt (hbefore other hmem)
  · rcases List.mem_cons.mp hmem with rfl | hmem
    · exact Int.le_refl _
    · exact hafter other hmem

/-- One more age in front stays if none of the others is older. -/
theorem IsOldest.cons {infos : List CacheInfo} {info : CacheInfo}
    (h : IsOldest infos info) (first : CacheInfo) :
    IsOldest (first :: infos) (first.older info) := by
  unfold CacheInfo.older
  by_cases hlt : info.retrievalTime < first.retrievalTime
  · rw [if_pos hlt]
    obtain ⟨before, after, rfl, hbefore, hafter⟩ := h
    refine ⟨first :: before, after, rfl, fun other hother => ?_, hafter⟩
    rcases List.mem_cons.mp hother with rfl | hother
    · exact hlt
    · exact hbefore other hother
  · rw [if_neg hlt]
    refine ⟨[], infos, rfl, List.forall_mem_nil _, fun other hother => ?_⟩
    have hle := h.le hother
    omega

namespace HostSections

variable {a b c h other : HostSections}

-- ==================================================== by name

/-- Sections with the same rows and ages under all names are equal. -/
theorem ext_get?
    (hsections : ∀ name, a.sections.get? name = b.sections.get? name)
    (hages : ∀ name, a.cacheInfo.get? name = b.cacheInfo.get? name) :
    a = b := by
  obtain ⟨sections, ages⟩ := a
  obtain ⟨sections', ages'⟩ := b
  have hs : sections = sections' := SortedMap.ext_get? hsections
  have ha : ages = ages' := SortedMap.ext_get? hages
  rw [hs, ha]

/-- The rows after some more have come under a name. -/
theorem get?_sections_addSection (h : HostSections) (name : SectionName)
    (rows : Table) (info : Option CacheInfo) (name' : SectionName) :
    (h.addSection name rows info).sections.get? name'
      = (h.sections.get? name').merge (· ++ ·)
          (if name' = name then some rows else none) := by
  unfold addSection
  rw [SortedMap.get?_insert]
  by_cases hname : name' = name
  · subst hname
    rw [if_pos rfl, if_pos rfl]
    cases h.sections.get? name' <;> rfl
  · rw [if_neg hname, if_neg hname, Option.merge_none_right]

/-- The age after one has come under a name, or none. -/
theorem get?_cacheInfo_addSection (h : HostSections) (name : SectionName)
    (rows : Table) (info : Option CacheInfo) (name' : SectionName) :
    (h.addSection name rows info).cacheInfo.get? name'
      = (h.cacheInfo.get? name').merge CacheInfo.older
          (if name' = name then info else none) := by
  unfold addSection
  cases info with
  | none => rw [ite_self, Option.merge_none_right]
  | some i =>
      simp only
      rw [SortedMap.get?_insert]
      by_cases hname : name' = name
      · subst hname
        rw [if_pos rfl, if_pos rfl]
        cases h.cacheInfo.get? name' <;> rfl
      · rw [if_neg hname, if_neg hname, Option.merge_none_right]

/-- What is found under a name after sections with pairwise different names
have been added. -/
private theorem get?_addAll (ages : SortedMap SectionName CacheInfo)
    (name : SectionName) (entries : List (SectionName × Table)) :
    ∀ h : HostSections, (entries.map (·.1)).Nodup →
      let added := entries.foldl
        (fun acc e => acc.addSection e.1 e.2 (ages.get? e.1)) h
      added.sections.get? name = (h.sections.get? name).merge (· ++ ·)
          (SortedMap.find? name entries)
        ∧ added.cacheInfo.get? name = (h.cacheInfo.get? name).merge
            CacheInfo.older
            ((SortedMap.find? name entries).bind fun _ => ages.get? name) := by
  induction entries with
  | nil =>
      intro h _
      exact ⟨Option.merge_none_right.symm, Option.merge_none_right.symm⟩
  | cons e rest ih =>
      intro h hnodup
      rw [List.map_cons, List.nodup_cons] at hnodup
      obtain ⟨hrows, hage⟩ :=
        ih (h.addSection e.1 e.2 (ages.get? e.1)) hnodup.2
      simp only [List.foldl_cons]
      rw [hrows, hage, get?_sections_addSection, get?_cacheInfo_addSection]
      rw [SortedMap.find?_cons]
      by_cases hname : name = e.1
      · -- the name does not come again
        rw [if_pos hname, if_pos hname, if_pos hname, hname,
          SortedMap.find?_of_not_mem hnodup.1]
        exact ⟨Option.merge_none_right, Option.merge_none_right⟩
      · rw [if_neg hname, if_neg hname, if_neg hname,
          Option.merge_none_right, Option.merge_none_right]
        exact ⟨rfl, rfl⟩

/-- The rows of two sources follow one another. -/
theorem get?_sections_extend (h other : HostSections) (name : SectionName) :
    (h.extend other).sections.get? name
      = (h.sections.get? name).merge (· ++ ·) (other.sections.get? name) :=
  (get?_addAll other.cacheInfo name other.sections.entries h
    other.sections.keys_nodup).1

-- ==================================================== covered ages

/-- Ages are known only of sections that are there. -/
def Covered (h : HostSections) : Prop :=
  ∀ name, (h.cacheInfo.get? name).isSome = true →
    (h.sections.get? name).isSome = true

/-- Of the ages of two sources the older one stays. -/
theorem get?_cacheInfo_extend (h : HostSections) (hother : other.Covered)
    (name : SectionName) :
    (h.extend other).cacheInfo.get? name
      = (h.cacheInfo.get? name).merge CacheInfo.older
          (other.cacheInfo.get? name) := by
  have hage := (get?_addAll other.cacheInfo name other.sections.entries h
    other.sections.keys_nodup).2
  refine hage.trans ?_
  show (h.cacheInfo.get? name).merge CacheInfo.older
    ((other.sections.get? name).bind fun _ => other.cacheInfo.get? name) = _
  cases hrows : other.sections.get? name with
  | some rows => rfl
  | none =>
      have hnone : other.cacheInfo.get? name = none := by
        rw [← Option.not_isSome_iff_eq_none]
        intro hsome
        have := hother name hsome
        rw [hrows] at this
        cases this
      rw [hnone]
      rfl

/-- There are no ages at all. -/
theorem covered_empty : Covered ∅ := fun _ hsome => by cases hsome

/-- A section comes with its age. -/
theorem Covered.addSection (hcovered : h.Covered) (name : SectionName)
    (rows : Table) (info : Option CacheInfo) :
    (h.addSection name rows info).Covered := by
  intro name' hsome
  rw [get?_cacheInfo_addSection, Option.isSome_merge, Bool.or_eq_true] at hsome
  rw [get?_sections_addSection, Option.isSome_merge, Bool.or_eq_true]
  rcases hsome with hsome | hsome
  · exact Or.inl (hcovered name' hsome)
  · by_cases hname : name' = name
    · rw [if_pos hname]
      exact Or.inr rfl
    · rw [if_neg hname] at hsome
      cases hsome

/-- What is joined has ages of its own sections, if the sources do. -/
theorem Covered.extend (hcovered : h.Covered) (hother : other.Covered) :
    (h.extend other).Covered := by
  intro name hsome
  rw [get?_cacheInfo_extend h hother, Option.isSome_merge, Bool.or_eq_true]
    at hsome
  rw [get?_sections_extend, Option.isSome_merge, Bool.or_eq_true]
  exact hsome.imp (hcovered name) (hother name)

-- ==================================================== the laws of joining

/-- Nothing comes of joining an empty source. -/
theorem extend_empty (h : HostSections) : h.extend ∅ = h :=
  extend_of_isEmpty rfl

/-- Joined to nothing, a source is what it is. -/
theorem empty_extend (hcovered : h.Covered) :
    (∅ : HostSections).extend h = h := by
  refine ext_get? (fun name => ?_) fun name => ?_
  · rw [get?_sections_extend]
    exact Option.merge_none_left
  · rw [get?_cacheInfo_extend ∅ hcovered]
    exact Option.merge_none_left

/-- Three sources are joined in one way only. -/
theorem extend_assoc (a : HostSections) (hb : b.Covered) (hc : c.Covered) :
    (a.extend b).extend c = a.extend (b.extend c) := by
  refine ext_get? (fun name => ?_) fun name => ?_
  · rw [get?_sections_extend, get?_sections_extend, get?_sections_extend,
      get?_sections_extend]
    exact Std.Associative.assoc _ _ _
  · rw [get?_cacheInfo_extend _ hc, get?_cacheInfo_extend _ hb,
      get?_cacheInfo_extend _ (hb.extend hc), get?_cacheInfo_extend _ hc]
    exact Std.Associative.assoc _ _ _

/-- One more section at the end can be added before joining or after. -/
theorem extend_addSection (h : HostSections) (hother : other.Covered)
    (name : SectionName) (rows : Table) (info : Option CacheInfo) :
    h.extend (other.addSection name rows info)
      = (h.extend other).addSection name rows info := by
  refine ext_get? (fun name' => ?_) fun name' => ?_
  · rw [get?_sections_extend, get?_sections_addSection,
      get?_sections_addSection, get?_sections_extend]
    exact (Std.Associative.assoc _ _ _).symm
  · rw [get?_cacheInfo_extend _ (hother.addSection _ _ _),
      get?_cacheInfo_addSection, get?_cacheInfo_addSection,
      get?_cacheInfo_extend _ hother]
    exact (Std.Associative.assoc _ _ _).symm

-- ==================================================== many sources

/-- Sources that are joined to some sections come behind them. -/
private theorem foldl_extend {all : List HostSections}
    (hall : ∀ h ∈ all, h.Covered) (h : HostSections) :
    all.foldl HostSections.extend h = h.extend (join all)
      ∧ (join all).Covered := by
  induction all generalizing h with
  | nil => exact ⟨(extend_empty h).symm, covered_empty⟩
  | cons first rest ih =>
      have hfirst := hall first (List.mem_cons_self ..)
      have hrest := ih fun other hother =>
        hall other (List.mem_cons_of_mem _ hother)
      have hjoin : join (first :: rest) = first.extend (join rest) := by
        unfold join
        rw [List.foldl_cons, (hrest _).1, empty_extend hfirst]
        rfl
      rw [List.foldl_cons, (hrest _).1, hjoin,
        extend_assoc h hfirst (hrest first).2]
      exact ⟨rfl, hfirst.extend (hrest first).2⟩

/-- What is joined of covered sources is covered. -/
theorem covered_join {all : List HostSections} (hall : ∀ h ∈ all, h.Covered) :
    (join all).Covered :=
  (foldl_extend hall ∅).2

/-- The first source comes before the others. -/
theorem join_cons {rest : List HostSections} (hcovered : h.Covered)
    (hrest : ∀ other ∈ rest, other.Covered) :
    join (h :: rest) = h.extend (join rest) := by
  unfold join
  rw [List.foldl_cons, empty_extend hcovered]
  exact (foldl_extend hrest h).1

/-- What is joined of some sources, said by name: the rows of a section are
those of all sources that have it, in order, and its age is the oldest one that
the sources tell, and the first one of those. -/
structure IsJoined (all : List HostSections) (joined : HostSections) :
    Prop where
  rows : ∀ name, joined.sections.get? name =
    match all.filterMap (·.sections.get? name) with
    | [] => none
    | tables => some tables.flatten
  ages : ∀ name,
    match joined.cacheInfo.get? name with
    | some info => IsOldest (all.filterMap (·.cacheInfo.get? name)) info
    | none => all.filterMap (·.cacheInfo.get? name) = []

/-- One more source in front of what is joined. -/
private theorem IsJoined.cons {rest : List HostSections} {joined : HostSections}
    (hjoined : IsJoined rest joined) (hcovered : joined.Covered)
    (first : HostSections) :
    IsJoined (first :: rest) (first.extend joined) := by
  refine ⟨fun name => ?_, fun name => ?_⟩
  · rw [get?_sections_extend, hjoined.rows, List.filterMap_cons]
    cases first.sections.get? name with
    | none => exact Option.merge_none_left
    | some rows =>
        cases rest.filterMap (·.sections.get? name) with
        | nil => simp
        | cons table tables => rfl
  · have hages := hjoined.ages name
    rw [get?_cacheInfo_extend _ hcovered, List.filterMap_cons]
    cases first.cacheInfo.get? name with
    | none =>
        rw [Option.merge_none_left]
        exact hages
    | some info =>
        cases hlater : joined.cacheInfo.get? name with
        | none =>
            rw [hlater] at hages
            rw [hages]
            exact isOldest_singleton info
        | some later =>
            rw [hlater] at hages
            exact IsOldest.cons hages info

/-- The sections of several sources, by name. -/
theorem isJoined_join {all : List HostSections} (hall : ∀ h ∈ all, h.Covered) :
    IsJoined all (join all) := by
  induction all with
  | nil => exact ⟨fun _ => rfl, fun _ => rfl⟩
  | cons first rest ih =>
      have hrest : ∀ other ∈ rest, other.Covered :=
        fun other hother => hall other (List.mem_cons_of_mem _ hother)
      rw [join_cons (hall first (List.mem_cons_self ..)) hrest]
      exact (ih hrest).cons (covered_join hrest) first

end HostSections

end HostWatch
