/-
What becomes of the answers when the built-in period is declared.

The built-in period is recognised by its name when it is asked about, so a
declaration of it is never looked into, whatever its ranges are. But an
exclude list is searched for declared periods first, and only these are asked
about: the built-in one counts there only once it has been declared. From then
on a period that excludes it is never active.

That is all that happens (`active_ask_declared`): the answers are those of the
configuration from before in which the periods that exclude the built-in one
have lost their ranges. No condition on circles is needed for it, as the two
evaluations go the same way, and break off at the same periods. What follows
from it is read off two facts about a single configuration: an answer depends
on what can be reached (`active_ask_congr`), and where there are no circles it
does not depend on what is under way.
-/
import HostWatch.Proofs.Period

namespace HostWatch.Periods

variable {specs specs' : SortedMap PeriodName PeriodSpec}
    {periods periods' : Periods} {t : Instant} {chain : List PeriodName}
    {name : PeriodName}

-- ==================================================== accepted configurations

/-- A configuration is accepted if each of its periods is. -/
theorem exists_ofSpecs (h : ∀ name spec, specs.get? name = some spec →
      ∃ period, Period.ofSpec name spec = .ok period) :
    ∃ periods, ofSpecs specs = .ok periods := by
  have hall : ∀ entry ∈ specs.entries, ∃ result,
      (Period.ofSpec entry.1 entry.2).map (entry.1, ·) = .ok result := by
    intro entry hentry
    obtain ⟨period, hperiod⟩ := h entry.1 entry.2
      ((SortedMap.mem_entries_iff specs _ _).mp hentry)
    exact ⟨_, map_eq_ok_iff.mpr ⟨period, hperiod, rfl⟩⟩
  obtain ⟨results, hresults⟩ := exists_mapM_ok hall
  exact ⟨_, map_eq_ok_iff.mpr ⟨results, hresults, rfl⟩⟩

/-- An accepted configuration stays accepted with one more period that is. -/
theorem exists_ofSpecs_insert (hspecs : ofSpecs specs = .ok periods)
    {spec : PeriodSpec} {period : Period}
    (hperiod : Period.ofSpec name spec = .ok period) :
    ∃ periods', ofSpecs (specs.insert name spec) = .ok periods' := by
  apply exists_ofSpecs
  intro other spec' hspec'
  rw [SortedMap.get?_insert] at hspec'
  by_cases hother : other = name
  · rw [if_pos hother] at hspec'
    cases hspec'
    exact ⟨period, hother ▸ hperiod⟩
  · rw [if_neg hother] at hspec'
    obtain ⟨period', -, hofSpec⟩ := exists_of_ofSpecs hspecs hspec'
    exact ⟨period', hofSpec⟩

-- ==================================================== the answers

/-- The same periods, of which those that exclude the built-in one have no
ranges. -/
def switchOff (periods : Periods) : Periods :=
  SortedMap.map (fun _ period =>
    if always ∈ period.exclude then { period with ranges := [] } else period)
    periods

theorem get?_switchOff (periods : Periods) (name : PeriodName) :
    SortedMap.get? periods.switchOff name
      = (SortedMap.get? periods name).map fun period =>
        if always ∈ period.exclude then { period with ranges := [] }
        else period :=
  SortedMap.get?_map ..

theorem get?_switchOff_of_none (h : SortedMap.get? periods name = none) :
    SortedMap.get? periods.switchOff name = none := by
  rw [get?_switchOff, h]
  rfl

theorem get?_switchOff_of_mem {period : Period}
    (hperiod : SortedMap.get? periods name = some period)
    (hexclude : always ∈ period.exclude) :
    SortedMap.get? periods.switchOff name
      = some { period with ranges := [] } := by
  rw [get?_switchOff, hperiod, Option.map_some, if_pos hexclude]

theorem get?_switchOff_of_not_mem {period : Period}
    (hperiod : SortedMap.get? periods name = some period)
    (hexclude : always ∉ period.exclude) :
    SortedMap.get? periods.switchOff name = some period := by
  rw [get?_switchOff, hperiod, Option.map_some, if_neg hexclude]

theorem contains_switchOff (periods : Periods) (name : PeriodName) :
    SortedMap.contains periods.switchOff name
      = SortedMap.contains periods name := by
  unfold SortedMap.contains
  rw [get?_switchOff, Option.isSome_map]

/-- A period that excludes the built-in one is switched off. -/
theorem active_ask_switchOff {period : Period} (hname : name ≠ always)
    (hperiod : SortedMap.get? periods name = some period)
    (hexclude : always ∈ period.exclude) :
    (periods.switchOff.ask t chain name).active = false := by
  have hoff := get?_switchOff_of_mem hperiod hexclude
  by_cases hmem : name ∈ chain
  · rw [ask_of_mem hname hoff hmem]
    rfl
  · rw [active_ask hname hoff hmem]
    rfl

/-- Declared periods are the same but for the built-in one, which is declared
in the second configuration. -/
structure Declares (periods periods' : Periods) : Prop where
  same : ∀ name, name ≠ always →
    SortedMap.get? periods' name = SortedMap.get? periods name
  declared : SortedMap.contains periods' always = true

theorem Declares.of_insert {spec : PeriodSpec}
    (hspecs : ofSpecs specs = .ok periods)
    (hspecs' : ofSpecs (specs.insert always spec) = .ok periods') :
    Declares periods periods' where
  same name hname := by
    refine Option.ext fun period => ?_
    rw [get?_ofSpecs hspecs, get?_ofSpecs hspecs', SortedMap.get?_insert,
      if_neg hname]
  declared := by
    rw [contains_ofSpecs hspecs']
    unfold SortedMap.contains
    rw [SortedMap.get?_insert, if_pos rfl]
    rfl

/-- Declaring the built-in period switches off what excludes it, and does
nothing else. -/
theorem active_ask_declared (h : Declares periods periods') :
    ∀ {chain : List PeriodName} {name : PeriodName},
      (periods'.ask t chain name).active
        = (periods.switchOff.ask t chain name).active := by
  intro chain
  induction hn : (periods'.fresh chain).length using Nat.strongRecOn
      generalizing chain with
  | ind n ih =>
      subst hn
      intro name
      by_cases hname : name = always
      · rw [hname, ask_always, ask_always]
      have hget' := h.same name hname
      cases hperiod : SortedMap.get? periods name with
      | none =>
          have hoff := get?_switchOff_of_none hperiod
          rw [hperiod] at hget'
          rw [ask_of_undeclared hname hget', ask_of_undeclared hname hoff]
      | some period =>
          rw [hperiod] at hget'
          by_cases hexclude : always ∈ period.exclude
          · rw [active_ask_switchOff hname hperiod hexclude]
            by_cases hmem : name ∈ chain
            · rw [ask_of_mem hname hget' hmem]
              rfl
            rw [active_ask hname hget' hmem, Bool.and_eq_false_iff]
            right
            rw [Bool.not_eq_false', List.any_eq_true]
            exact ⟨always, hexclude, by rw [h.declared, ask_always]; rfl⟩
          have hoff := get?_switchOff_of_not_mem hperiod hexclude
          by_cases hmem : name ∈ chain
          · rw [ask_of_mem hname hget' hmem, ask_of_mem hname hoff hmem]
          rw [active_ask hname hget' hmem, active_ask hname hoff hmem]
          congr 2
          refine any_congr_of_mem fun other hother => ?_
          -- no other period of this list is the built-in one
          have hne : other ≠ always := by
            rintro rfl
            exact hexclude hother
          have hcontains : SortedMap.contains periods' other
              = SortedMap.contains periods.switchOff other := by
            rw [contains_switchOff]
            unfold SortedMap.contains
            rw [h.same other hne]
          rw [hcontains, ih _ (fresh_length_lt hget' hmem) rfl]

-- ==================================================== what does not change

/-- An answer stays the same where no way leads to the built-in period. -/
theorem active_ask_of_not_reached (h : Declares periods periods')
    (hreach : ¬ Relation.TransGen periods.Excludes name always) :
    (periods'.ask t chain name).active = (periods.ask t chain name).active := by
  rw [active_ask_declared h]
  refine (active_ask_congr fun other hother => ⟨?_, Iff.rfl⟩).symm
  cases hperiod : SortedMap.get? periods other with
  | none => exact (get?_switchOff_of_none hperiod).symm
  | some period =>
      have hexclude : always ∉ period.exclude := fun hmem =>
        hreach (.tail' hother ⟨period, hperiod, hmem⟩)
      exact (get?_switchOff_of_not_mem hperiod hexclude).symm

/-- Where periods exclude one another in no circle, and no period that excludes
the built-in one is active, nothing changes: it makes no difference whether
such a period is inactive of itself or switched off. -/
theorem active_ask_of_not_circular (h : Declares periods periods')
    (hcircle : ∀ name, ¬ Relation.TransGen periods.Excludes name name)
    (hinactive : ∀ name, name ≠ always → periods.Excludes name always →
      periods.isActive t name = false) :
    ∀ {chain : List PeriodName} {name : PeriodName},
      (∀ other, Relation.ReflTransGen periods.Excludes name other →
        other ∉ chain) →
      (periods'.ask t chain name).active
        = (periods.ask t chain name).active := by
  intro chain
  induction hn : (periods.fresh chain).length using Nat.strongRecOn
      generalizing chain with
  | ind n ih =>
      subst hn
      intro name hreach
      rw [active_ask_declared h]
      by_cases hname : name = always
      · rw [hname, ask_always, ask_always]
      cases hperiod : SortedMap.get? periods name with
      | none =>
          have hoff := get?_switchOff_of_none hperiod
          rw [ask_of_undeclared hname hoff, ask_of_undeclared hname hperiod]
      | some period =>
          by_cases hexclude : always ∈ period.exclude
          · have halone : (periods.ask t chain name).active
                = periods.isActive t name :=
              active_ask_congr fun other hother =>
                ⟨rfl, by simpa using hreach other hother⟩
            rw [active_ask_switchOff hname hperiod hexclude, halone,
              hinactive name hname ⟨period, hperiod, hexclude⟩]
          have hoff := get?_switchOff_of_not_mem hperiod hexclude
          have hmem := hreach name .refl
          rw [active_ask hname hoff hmem, active_ask hname hperiod hmem]
          congr 2
          refine any_congr_of_mem fun other hother => ?_
          have hstep : periods.Excludes name other := ⟨period, hperiod, hother⟩
          rw [contains_switchOff, ← active_ask_declared h,
            ih _ (fresh_length_lt hperiod hmem) rfl fun later hlater => ?_]
          rw [List.mem_cons, not_or]
          refine ⟨?_, hreach later (.head hstep hlater)⟩
          rintro rfl
          exact hcircle _ (.head' hstep hlater)

-- ==================================================== the main statement

/-- What declaring the built-in period does to a configuration that is
accepted and does not declare it yet. The configuration is accepted with it,
and then every answer is that of the configuration from before with the
periods that exclude the built-in one switched off: those are never active any
more. An answer stays the same where no way through exclude lists leads to the
built-in period. So the declaration is redundant only if the periods that
exclude the built-in one have never been active, and if there are no circles
in the exclude lists, exactly then. -/
theorem declaring_always_exact (hspecs : ofSpecs specs = .ok periods)
    (hnone : specs.get? always = none) {full : PeriodSpec} {week : Period}
    (hfull : Period.ofSpec always full = .ok week) :
    ∃ periods', ofSpecs (specs.insert always full) = .ok periods'
      ∧ (∀ t name, periods'.isActive t name
        = periods.switchOff.isActive t name)
      ∧ (∀ t name, ConfiguredToExclude specs name always →
        periods'.isActive t name = false)
      ∧ (∀ name, ¬ Relation.TransGen (ConfiguredToExclude specs) name always →
        ∀ t, periods'.isActive t name = periods.isActive t name)
      ∧ ((∀ t name, periods'.isActive t name = periods.isActive t name) →
        ∀ t name, ConfiguredToExclude specs name always →
          periods.isActive t name = false)
      ∧ ((∀ name, ¬ Relation.TransGen (ConfiguredToExclude specs) name name) →
        (∀ t name, ConfiguredToExclude specs name always →
          periods.isActive t name = false) →
        ∀ t name, periods'.isActive t name = periods.isActive t name) := by
  obtain ⟨periods', hspecs'⟩ := exists_ofSpecs_insert hspecs hfull
  have hdeclares := Declares.of_insert hspecs hspecs'
  have hexcludes : ConfiguredToExclude specs = periods.Excludes := by
    funext name other
    exact propext (excludes_iff hspecs).symm
  have hne : ∀ name, periods.Excludes name always → name ≠ always := by
    rintro _ ⟨period, hperiod, -⟩ rfl
    obtain ⟨spec, hspec, -⟩ := (get?_ofSpecs hspecs).mp hperiod
    rw [hnone] at hspec
    cases hspec
  have hoff : ∀ t name, periods.Excludes name always →
      periods'.isActive t name = false := by
    intro t name hexclude
    obtain ⟨period, hperiod, hmem⟩ := id hexclude
    exact (active_ask_declared hdeclares).trans
      (active_ask_switchOff (hne name hexclude) hperiod hmem)
  rw [hexcludes]
  refine ⟨periods', hspecs', fun t name => active_ask_declared hdeclares, hoff,
    fun name hreach t => active_ask_of_not_reached hdeclares hreach,
    fun hsame t name hexclude => ?_, fun hcircle hinactive t name => ?_⟩
  · rw [← hsame, hoff t name hexclude]
  · exact active_ask_of_not_circular hdeclares hcircle
      (fun name _ => hinactive t name) fun _ _ => List.not_mem_nil

-- ==================================================== a declaration that counts

/-- The whole of every day of the week. -/
def fullWeek : PeriodSpec where
  days := .ofList (Weekday.all.map fun day => (day.name, ["00:00-24:00"]))

theorem fullWeek_covers (t : Instant) : fullWeek.Covers t := by
  have hparse : TimeRange.parse "00:00-24:00" = .ok ⟨0, 1440⟩ := by
    decide +kernel
  have hminute : t.minuteOfDay < 1440 := by
    unfold Instant.minuteOfDay
    omega
  refine ⟨t.weekday.name, ["00:00-24:00"], "00:00-24:00", ⟨0, 1440⟩, ?_, ?_,
    List.mem_singleton_self _, hparse, by simpa [TimeRange.contains] using hminute⟩
  · cases t.weekday <;> decide +kernel
  · cases t.weekday <;> decide +kernel

theorem exists_fullWeek : ∃ week, Period.ofSpec always fullWeek = .ok week := by
  have hsome : (Period.ofSpec always fullWeek).toOption.isSome = true := by
    decide +kernel
  cases hweek : Period.ofSpec always fullWeek with
  | error e => rw [hweek] at hsome; cases hsome
  | ok week => exact ⟨week, rfl⟩

/-- On Mondays there is work, but never at all times; a rest when there is no
work; and lunch. -/
def idleSpecs : SortedMap PeriodName PeriodSpec :=
  let mondays : SortedMap String (List String) :=
    .ofList [("monday", ["00:00-24:00"])]
  .ofList [("work", { days := mondays, exclude := [always] }),
    ("rest", { days := mondays, exclude := ["work"] }),
    ("lunch", { days := mondays })]

theorem exists_idlePeriods : ∃ periods, ofSpecs idleSpecs = .ok periods := by
  have hsome : (ofSpecs idleSpecs).toOption.isSome = true := by decide +kernel
  cases hspecs : ofSpecs idleSpecs with
  | error e => rw [hspecs] at hsome; cases hsome
  | ok periods => exact ⟨periods, rfl⟩

/-- Once the built-in period is declared, there is no work any more; lunch is
as before. -/
theorem declaring_always_exact_idle :
    ∃ periods periods' week, ofSpecs idleSpecs = .ok periods
      ∧ idleSpecs.get? always = none
      ∧ Period.ofSpec always fullWeek = .ok week
      ∧ ofSpecs (idleSpecs.insert always fullWeek) = .ok periods'
      ∧ (∀ t, periods'.isActive t "work" = false)
      ∧ ∀ t, periods'.isActive t "lunch" = periods.isActive t "lunch" := by
  obtain ⟨periods, hspecs⟩ := exists_idlePeriods
  obtain ⟨week, hweek⟩ := exists_fullWeek
  obtain ⟨periods', hspecs', -, hoff, hsame, -⟩ :=
    declaring_always_exact hspecs rfl hweek
  refine ⟨periods, periods', week, hspecs, rfl, hweek, hspecs', fun t => ?_,
    hsame "lunch" ?_⟩
  · exact hoff t "work" ⟨_, rfl, List.mem_singleton_self _⟩
  · -- lunch excludes nothing, so no way leads from it to anywhere
    intro hreach
    obtain ⟨other, ⟨spec, hspec, hother⟩, -⟩ :=
      Relation.TransGen.head'_iff.mp hreach
    have hlunch : spec = { days := .ofList [("monday", ["00:00-24:00"])] } :=
      Option.some.inj (hspec.symm.trans rfl)
    rw [hlunch] at hother
    cases hother

/-- The built-in period in an exclude list has no effect until it is declared:
on a Monday there is work without a declaration, and none with it. -/
theorem undeclared_always_excludes_nothing :
    let monday : Instant := ⟨1704101400⟩
    ∃ periods periods', ofSpecs idleSpecs = .ok periods
      ∧ idleSpecs.get? always = none
      ∧ (∀ t, fullWeek.Covers t)
      ∧ ofSpecs (idleSpecs.insert always fullWeek) = .ok periods'
      ∧ periods.isActive monday "work" = true
      ∧ periods'.isActive monday "work" = false := by
  intro monday
  obtain ⟨periods, hspecs⟩ := exists_idlePeriods
  obtain ⟨week, hweek⟩ := exists_fullWeek
  obtain ⟨periods', hspecs'⟩ := exists_ofSpecs_insert hspecs hweek
  have hwork : idleSpecs.get? "work" = some
      { days := .ofList [("monday", ["00:00-24:00"])], exclude := [always] } :=
    rfl
  obtain ⟨period, hperiod, hofSpec⟩ := exists_of_ofSpecs hspecs hwork
  have hexclude := Period.exclude_of_ofSpec hofSpec
  have hcovers : period.covers monday = true :=
    (Period.covers_of_ofSpec hofSpec monday).mpr
      ⟨"monday", ["00:00-24:00"], "00:00-24:00", ⟨0, 1440⟩, rfl,
        by decide +kernel, List.mem_singleton_self _, by decide +kernel,
        by decide +kernel⟩
  have hundeclared : SortedMap.contains periods always = false := by
    rw [contains_ofSpecs hspecs]
    rfl
  refine ⟨periods, periods', hspecs, rfl, fullWeek_covers, hspecs', ?_, ?_⟩
  · unfold isActive
    rw [active_ask (by decide) hperiod List.not_mem_nil, hcovers, hexclude]
    simp [hundeclared]
  · exact (active_ask_declared (.of_insert hspecs hspecs')).trans
      (active_ask_switchOff (by decide) hperiod (by simp [hexclude]))

end HostWatch.Periods
