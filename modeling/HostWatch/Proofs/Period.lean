/-
When a time period is active.

A period is inactive while another one that it excludes is active, and
whether that one is active may depend on further ones. The periods that are
being asked about are kept on one chain, which every evaluation changes and
changes back: it is left as it was found (`left_ask`), so an excluded period
is asked about on the same chain whatever its siblings have come to
(`active_askAny`). With that the evaluation has an equation that mentions no
chain but its own (`active_ask`), and the rest is read off it.

What carries the rest is `active_ask_congr`: an answer depends on the
periods that can be reached through exclude lists, and on which of these
are on the chain. It is used twice. Applied to two configurations it says
which part of a configuration counts. Applied to a chain of one period and
to the empty chain it says that the chain does not matter where no circle
leads back to it, which gives the plain reading of an exclude list for
configurations without circles.

Circles need no special treatment for all that. An evaluation within
another one finds one declared period less that is not under way
(`asks_wellFounded`), so each of them ends.
-/
import HostWatch.Period
import HostWatch.Proofs.Fallible
import HostWatch.Proofs.SortedMap
import Mathlib.Logic.Relation

namespace HostWatch

-- ==================================================== configurations

/-- A moment lies in one of the ranges that are configured for its weekday. -/
def PeriodSpec.Covers (spec : PeriodSpec) (t : Instant) : Prop :=
  ∃ day texts text range, spec.days.get? day = some texts
    ∧ Weekday.ofName? day = some t.weekday ∧ text ∈ texts
    ∧ TimeRange.parse text = .ok range ∧ range.contains t.minuteOfDay = true

namespace Period

variable {name : PeriodName} {spec : PeriodSpec} {period : Period}

/-- The ranges of a day are those that its texts denote. -/
private theorem mem_ofDay {day : String × List String}
    {ranges : List (Weekday × TimeRange)} (h : ofDay name day = .ok ranges)
    {weekday : Weekday} {range : TimeRange} :
    (weekday, range) ∈ ranges ↔ Weekday.ofName? day.1 = some weekday
      ∧ ∃ text ∈ day.2, TimeRange.parse text = .ok range := by
  unfold ofDay at h
  cases hday : Weekday.ofName? day.1 with
  | none =>
      rw [hday] at h
      cases h
  | some known =>
      rw [hday] at h
      rw [mem_of_mapM_ok h]
      simp only [map_eq_ok_iff, Prod.mk.injEq, Option.some.injEq]
      constructor
      · rintro ⟨text, htext, range', hrange, rfl, rfl⟩
        exact ⟨rfl, text, htext, hrange⟩
      · rintro ⟨rfl, text, htext, hrange⟩
        exact ⟨text, htext, range, hrange, rfl, rfl⟩

theorem exclude_of_ofSpec (h : ofSpec name spec = .ok period) :
    period.exclude = spec.exclude := by
  obtain ⟨ranges, -, rfl⟩ := map_eq_ok_iff.mp h
  rfl

/-- A period covers the moments that its configuration does. -/
theorem covers_of_ofSpec (h : ofSpec name spec = .ok period) (t : Instant) :
    period.covers t = true ↔ spec.Covers t := by
  obtain ⟨days, hdays, rfl⟩ := map_eq_ok_iff.mp h
  have hmem : ∀ weekday range, (weekday, range) ∈ days.flatten
      ↔ ∃ day texts, spec.days.get? day = some texts
        ∧ Weekday.ofName? day = some weekday
        ∧ ∃ text ∈ texts, TimeRange.parse text = .ok range := by
    intro weekday range
    rw [List.mem_flatten]
    constructor
    · rintro ⟨ranges, hranges, hrange⟩
      obtain ⟨⟨day, texts⟩, hday, hofDay⟩ := (mem_of_mapM_ok hdays).mp hranges
      rw [SortedMap.mem_entries_iff] at hday
      exact ⟨day, texts, hday, (mem_ofDay hofDay).mp hrange⟩
    · rintro ⟨day, texts, hday, hrange⟩
      rw [← SortedMap.mem_entries_iff] at hday
      obtain ⟨ranges, hofDay⟩ := exists_ok_of_mapM_ok hdays hday
      exact ⟨ranges, (mem_of_mapM_ok hdays).mpr ⟨_, hday, hofDay⟩,
        (mem_ofDay hofDay).mpr hrange⟩
  unfold covers PeriodSpec.Covers
  simp only [List.any_eq_true, Prod.exists, hmem, Bool.and_eq_true,
    beq_iff_eq]
  constructor
  · rintro ⟨weekday, range, ⟨day, texts, hday, hname, text, htext, hparse⟩,
      rfl, hcontains⟩
    exact ⟨day, texts, text, range, hday, hname, htext, hparse, hcontains⟩
  · rintro ⟨day, texts, text, range, hday, hname, htext, hparse, hcontains⟩
    exact ⟨_, range, ⟨day, texts, hday, hname, text, htext, hparse⟩, rfl,
      hcontains⟩

end Period

namespace Periods

variable {specs : SortedMap PeriodName PeriodSpec} {periods : Periods}
    {t : Instant} {chain : List PeriodName} {name : PeriodName}

/-- The declared periods are those that are configured. -/
theorem get?_ofSpecs (h : ofSpecs specs = .ok periods) {period : Period} :
    periods.get? name = some period ↔ ∃ spec, specs.get? name = some spec
      ∧ Period.ofSpec name spec = .ok period := by
  obtain ⟨results, hresults, rfl⟩ := map_eq_ok_iff.mp h
  have hmem : ∀ name period, (name, period) ∈ results
      ↔ ∃ spec, specs.get? name = some spec
        ∧ Period.ofSpec name spec = .ok period := by
    intro name period
    rw [mem_of_mapM_ok hresults]
    simp only [Prod.exists, SortedMap.mem_entries_iff, map_eq_ok_iff,
      Prod.mk.injEq]
    constructor
    · rintro ⟨_, spec, hspec, _, hperiod, rfl, rfl⟩
      exact ⟨spec, hspec, hperiod⟩
    · rintro ⟨spec, hspec, hperiod⟩
      exact ⟨name, spec, hspec, period, hperiod, rfl, rfl⟩
  rw [SortedMap.get?_ofList_iff, hmem]
  intro name period period' hperiod hperiod'
  obtain ⟨spec, hspec, hofSpec⟩ := (hmem _ _).mp hperiod
  obtain ⟨spec', hspec', hofSpec'⟩ := (hmem _ _).mp hperiod'
  rw [hspec] at hspec'
  cases hspec'
  rw [hofSpec] at hofSpec'
  exact Except.ok.inj hofSpec'

theorem exists_of_ofSpecs (h : ofSpecs specs = .ok periods) {spec : PeriodSpec}
    (hspec : specs.get? name = some spec) :
    ∃ period, periods.get? name = some period
      ∧ Period.ofSpec name spec = .ok period := by
  obtain ⟨results, hresults, -⟩ := map_eq_ok_iff.mp h
  obtain ⟨entry, hentry⟩ := exists_ok_of_mapM_ok hresults
    ((SortedMap.mem_entries_iff specs name spec).mpr hspec)
  obtain ⟨period, hperiod, -⟩ := map_eq_ok_iff.mp hentry
  exact ⟨period, (get?_ofSpecs h).mpr ⟨spec, hspec, hperiod⟩, hperiod⟩

theorem contains_ofSpecs (h : ofSpecs specs = .ok periods)
    (name : PeriodName) :
    SortedMap.contains periods name = specs.contains name := by
  unfold SortedMap.contains
  cases hspec : specs.get? name with
  | none =>
      rw [Option.isSome_none, Option.isSome_eq_false_iff,
        Option.isNone_iff_eq_none, Option.eq_none_iff_forall_ne_some]
      intro period hperiod
      obtain ⟨spec, hspec', -⟩ := (get?_ofSpecs h).mp hperiod
      rw [hspec] at hspec'
      cases hspec'
  | some spec =>
      obtain ⟨period, hperiod, -⟩ := exists_of_ofSpecs h hspec
      rw [hperiod]
      rfl

-- ==================================================== one evaluation

theorem ask_always (periods : Periods) (t : Instant)
    (chain : List PeriodName) :
    periods.ask t chain always = .plain true chain := by
  rw [ask, if_pos rfl]

theorem ask_of_undeclared (hname : name ≠ always)
    (hnone : SortedMap.get? periods name = none) :
    periods.ask t chain name = .plain true chain := by
  rw [ask, if_neg hname]
  split
  case h_1 => rfl
  case h_2 period hperiod =>
    rw [hnone] at hperiod
    cases hperiod

theorem ask_of_mem {period : Period} (hname : name ≠ always)
    (hperiod : SortedMap.get? periods name = some period)
    (hmem : name ∈ chain) :
    periods.ask t chain name = .plain false chain := by
  rw [ask, if_neg hname]
  split
  case h_1 hnone =>
    rw [hnone] at hperiod
    cases hperiod
  case h_2 => rw [dif_pos hmem]

theorem ask_of_not_mem {period : Period} (hname : name ≠ always)
    (hperiod : SortedMap.get? periods name = some period)
    (hmem : name ∉ chain) :
    periods.ask t chain name =
      (if period.covers t = true then
          (periods.askAny t (name :: chain) period.exclude).negate
        else .plain false (name :: chain)).leave hmem := by
  rw [ask, if_neg hname]
  split
  case h_1 hnone =>
    rw [hnone] at hperiod
    cases hperiod
  case h_2 found hfound =>
    rw [hperiod] at hfound
    cases hfound
    rw [dif_neg hmem]

/-- The chain is left as it was found, by one evaluation and by all those of
an exclude list. -/
private theorem left_ask_and_askAny (periods : Periods) (t : Instant) :
    (∀ chain name, (periods.ask t chain name).left = chain)
      ∧ ∀ chain excluded, (periods.askAny t chain excluded).left = chain := by
  apply ask.mutual_induct
  case case1 =>
    intro chain
    rw [ask_always]
    rfl
  case case2 =>
    intro chain name hname hnone
    rw [ask_of_undeclared hname hnone]
    rfl
  case case3 =>
    intro chain name hname period hperiod hmem
    rw [ask_of_mem hname hperiod hmem]
    rfl
  case case4 =>
    intro chain name hname period hperiod hmem ih
    rw [ask_of_not_mem hname hperiod hmem]
    show List.erase _ name = chain
    -- the name was put in front, and nothing else has changed since
    by_cases hcovers : period.covers t = true
    · rw [if_pos hcovers]
      show (periods.askAny t (name :: chain) period.exclude).left.erase name
        = chain
      rw [ih, List.erase_cons_head]
    · rw [if_neg hcovers]
      exact List.erase_cons_head ..
  case case5 =>
    intro chain
    rw [askAny]
    rfl
  case case6 =>
    intro chain other rest hdeclared first hactive ih
    rw [askAny, if_pos hdeclared]
    simp only
    rw [if_pos hactive]
    exact ih
  case case7 =>
    intro chain other rest hdeclared first hactive ih ihrest
    rw [askAny, if_pos hdeclared]
    simp only
    rw [if_neg hactive]
    exact ihrest.trans ih
  case case8 =>
    intro chain other rest hdeclared ih
    rw [askAny, if_neg hdeclared]
    exact ih

theorem left_ask (periods : Periods) (t : Instant) (chain : List PeriodName)
    (name : PeriodName) : (periods.ask t chain name).left = chain :=
  (left_ask_and_askAny periods t).1 chain name

theorem left_askAny (periods : Periods) (t : Instant)
    (chain excluded : List PeriodName) :
    (periods.askAny t chain excluded).left = chain :=
  (left_ask_and_askAny periods t).2 chain excluded

/-- Every excluded period is asked about on the same chain. -/
theorem active_askAny (periods : Periods) (t : Instant)
    (chain excluded : List PeriodName) :
    (periods.askAny t chain excluded).active = excluded.any fun other =>
      periods.contains other && (periods.ask t chain other).active := by
  induction excluded with
  | nil =>
      rw [askAny]
      rfl
  | cons other rest ih =>
      rw [askAny, List.any_cons]
      by_cases hdeclared : SortedMap.contains periods other = true
      · rw [if_pos hdeclared, hdeclared, Bool.true_and]
        by_cases hactive : (periods.ask t chain other).active = true
        · simp only [hactive, if_true, Bool.true_or]
        · rw [Bool.not_eq_true] at hactive
          simp only [hactive, Bool.false_eq_true, if_false, Bool.false_or]
          show (periods.askAny t (periods.ask t chain other).left rest).active
            = _
          rw [left_ask, ih]
      · rw [if_neg hdeclared, ih]
        simp only [hdeclared, Bool.false_and, Bool.false_or]

/-- The answer about a declared period that is not under way. -/
theorem active_ask {period : Period} (hname : name ≠ always)
    (hperiod : SortedMap.get? periods name = some period)
    (hmem : name ∉ chain) :
    (periods.ask t chain name).active
      = (period.covers t && !period.exclude.any fun other =>
        periods.contains other
          && (periods.ask t (name :: chain) other).active) := by
  rw [ask_of_not_mem hname hperiod hmem]
  show Answer.active _ = _
  by_cases hcovers : period.covers t = true
  · rw [if_pos hcovers, hcovers, Bool.true_and, ← active_askAny]
    rfl
  · rw [if_neg hcovers]
    rw [Bool.not_eq_true] at hcovers
    rw [hcovers]
    rfl

-- ==================================================== evaluations end

/-- An evaluation leads to another one within it. -/
inductive Asks (periods : Periods) (t : Instant) :
    List PeriodName × PeriodName → List PeriodName × PeriodName → Prop
  | excluded {chain : List PeriodName} {name other : PeriodName}
      {period : Period} (hname : name ≠ always)
      (hperiod : SortedMap.get? periods name = some period)
      (hmem : name ∉ chain) (hcovers : period.covers t = true)
      (hother : other ∈ period.exclude)
      (hdeclared : SortedMap.contains periods other = true) :
      Asks periods t (chain, name) (name :: chain, other)

/-- Evaluations within evaluations come to an end, whichever periods exclude
one another. -/
theorem asks_wellFounded (periods : Periods) (t : Instant) :
    WellFounded fun inner outer => periods.Asks t outer inner := by
  refine Subrelation.wf ?_
    (measure fun asked : List PeriodName × PeriodName =>
      (periods.fresh asked.1).length).wf
  rintro inner outer ⟨hname, hperiod, hmem, hcovers, hother, hdeclared⟩
  exact fresh_length_lt hperiod hmem

-- ==================================================== what an answer reads

/-- A period is in the exclude list of another one. -/
def Excludes (periods : Periods) (name other : PeriodName) : Prop :=
  ∃ period, SortedMap.get? periods name = some period ∧ other ∈ period.exclude

theorem any_congr_of_mem {α : Type} {items : List α} {p q : α → Bool}
    (h : ∀ a ∈ items, p a = q a) : items.any p = items.any q := by
  rw [Bool.eq_iff_iff, List.any_eq_true, List.any_eq_true]
  exact exists_congr fun a => and_congr_right fun ha => by rw [h a ha]

/-- An answer depends on the periods that can be reached through exclude
lists, and on which of these are under way. -/
theorem active_ask_congr {periods' : Periods} :
    ∀ {chain chain' : List PeriodName} {name : PeriodName},
      (∀ other, Relation.ReflTransGen periods.Excludes name other →
        SortedMap.get? periods other = SortedMap.get? periods' other
          ∧ (other ∈ chain ↔ other ∈ chain')) →
      (periods.ask t chain name).active
        = (periods'.ask t chain' name).active := by
  intro chain
  -- with each period that is entered there are fewer left to enter
  induction hn : (periods.fresh chain).length using Nat.strongRecOn
      generalizing chain with
  | ind n ih =>
      subst hn
      intro chain' name hreach
      obtain ⟨hget, hchain⟩ := hreach name .refl
      by_cases hname : name = always
      · rw [hname, ask_always, ask_always]
        rfl
      cases hperiod : SortedMap.get? periods name with
      | none =>
          rw [ask_of_undeclared hname hperiod,
            ask_of_undeclared hname (hget ▸ hperiod)]
          rfl
      | some period =>
          have hperiod' : SortedMap.get? periods' name = some period :=
            hget ▸ hperiod
          by_cases hmem : name ∈ chain
          · rw [ask_of_mem hname hperiod hmem,
              ask_of_mem hname hperiod' (hchain.mp hmem)]
            rfl
          have hmem' : name ∉ chain' := fun h => hmem (hchain.mpr h)
          rw [active_ask hname hperiod hmem, active_ask hname hperiod' hmem']
          congr 2
          refine any_congr_of_mem fun other hother => ?_
          have hstep : periods.Excludes name other := ⟨period, hperiod, hother⟩
          have hcontains : SortedMap.contains periods other
              = SortedMap.contains periods' other := by
            unfold SortedMap.contains
            rw [(hreach other (.single hstep)).1]
          have hinner : (periods.ask t (name :: chain) other).active
              = (periods'.ask t (name :: chain') other).active := by
            refine ih _ (fresh_length_lt hperiod hmem) rfl fun later hlater => ?_
            obtain ⟨hget', hchain'⟩ := hreach later (.head hstep hlater)
            exact ⟨hget', by rw [List.mem_cons, List.mem_cons, hchain']⟩
          rw [hcontains, hinner]

/-- Where no circle leads back to a declared period, it is active when it
covers the moment and excludes no active period. -/
theorem isActive_of_not_circular {period : Period} (hname : name ≠ always)
    (hperiod : SortedMap.get? periods name = some period)
    (hcircle : ¬ Relation.TransGen periods.Excludes name name) :
    periods.isActive t name = (period.covers t && !period.exclude.any
      fun other => periods.contains other && periods.isActive t other) := by
  unfold isActive
  rw [active_ask hname hperiod (List.not_mem_nil)]
  congr 2
  refine any_congr_of_mem fun other hother => ?_
  have hstep : periods.Excludes name other := ⟨period, hperiod, hother⟩
  have hchain : (periods.ask t [name] other).active
      = (periods.ask t [] other).active := by
    refine active_ask_congr fun later hlater => ⟨rfl, ?_⟩
    -- the only period on the chain is not met again
    have hne : later ≠ name := by
      rintro rfl
      exact hcircle (.head' hstep hlater)
    simp [hne]
  rw [hchain]

-- ==================================================== the main statement

/-- A configured period has another one in its exclude list. The other one
need not be configured; on a circle of such steps each of them is, as it has
an exclude list itself. -/
def ConfiguredToExclude (specs : SortedMap PeriodName PeriodSpec)
    (name other : PeriodName) : Prop :=
  ∃ spec, specs.get? name = some spec ∧ other ∈ spec.exclude

/-- The exclude lists of the declared periods are those of the
configuration. -/
theorem excludes_iff (h : ofSpecs specs = .ok periods)
    {name other : PeriodName} :
    periods.Excludes name other ↔ ConfiguredToExclude specs name other := by
  constructor
  · rintro ⟨period, hperiod, hother⟩
    obtain ⟨spec, hspec, hofSpec⟩ := (get?_ofSpecs h).mp hperiod
    rw [Period.exclude_of_ofSpec hofSpec] at hother
    exact ⟨spec, hspec, hother⟩
  · rintro ⟨spec, hspec, hother⟩
    obtain ⟨period, hperiod, hofSpec⟩ := exists_of_ofSpecs h hspec
    rw [← Period.exclude_of_ofSpec hofSpec] at hother
    exact ⟨period, hperiod, hother⟩

/-- Periods that are configured in the same way are the same. -/
private theorem get?_congr {specs' : SortedMap PeriodName PeriodSpec}
    {periods' : Periods} (h : ofSpecs specs = .ok periods)
    (h' : ofSpecs specs' = .ok periods')
    (hspec : specs.get? name = specs'.get? name) :
    SortedMap.get? periods name = SortedMap.get? periods' name := by
  refine Option.ext fun period => ?_
  rw [get?_ofSpecs h, get?_ofSpecs h', hspec]

/-- When a time period is active. Evaluations end, however periods exclude one
another. Each of them leaves the chain as it found it, so that an excluded
period has an answer of its own, whatever stands beside it in the list. If
periods exclude one another in no circle, a configured period other than the
built-in one is active exactly at the moments that its ranges cover, unless
one of the configured periods that it excludes is active. And its answer
depends on what can be reached from it through exclude lists, circles or
not. -/
theorem isActive_exact {specs : SortedMap PeriodName PeriodSpec}
    {periods : Periods} (hspecs : ofSpecs specs = .ok periods) (t : Instant) :
    (WellFounded fun inner outer => periods.Asks t outer inner)
      ∧ (∀ chain name, (periods.ask t chain name).left = chain)
      ∧ (∀ chain excluded, (periods.askAny t chain excluded).left = chain
        ∧ ((periods.askAny t chain excluded).active = true
          ↔ ∃ other ∈ excluded, specs.contains other = true
            ∧ (periods.ask t chain other).active = true))
      ∧ ((∀ name, ¬ Relation.TransGen (ConfiguredToExclude specs) name name) →
        ∀ name spec, specs.get? name = some spec → name ≠ always →
          (periods.isActive t name = true ↔ spec.Covers t
            ∧ ∀ other ∈ spec.exclude, specs.contains other = true →
              periods.isActive t other = false))
      ∧ ∀ specs' periods', ofSpecs specs' = .ok periods' → ∀ name,
        (∀ other, Relation.ReflTransGen (ConfiguredToExclude specs) name other →
          specs.get? other = specs'.get? other) →
        periods.isActive t name = periods'.isActive t name := by
  have hexcludes : periods.Excludes = ConfiguredToExclude specs := by
    funext name other
    exact propext (excludes_iff hspecs)
  refine ⟨asks_wellFounded periods t, left_ask periods t,
    fun chain excluded => ⟨left_askAny periods t chain excluded, ?_⟩,
    fun hacyclic name spec hspec hname => ?_,
    fun specs' periods' hspecs' name hreach => ?_⟩
  · rw [active_askAny, List.any_eq_true]
    simp only [Bool.and_eq_true, contains_ofSpecs hspecs]
  · obtain ⟨period, hperiod, hofSpec⟩ := exists_of_ofSpecs hspecs hspec
    have hcircle : ¬ Relation.TransGen periods.Excludes name name := by
      rw [hexcludes]
      exact hacyclic name
    rw [isActive_of_not_circular hname hperiod hcircle, Bool.and_eq_true,
      Period.covers_of_ofSpec hofSpec, Period.exclude_of_ofSpec hofSpec]
    simp only [Bool.not_eq_true', List.any_eq_false, Bool.and_eq_true,
      not_and, Bool.not_eq_true, contains_ofSpecs hspecs]
  · refine active_ask_congr fun other hother => ⟨?_, Iff.rfl⟩
    rw [hexcludes] at hother
    exact get?_congr hspecs hspecs' (hreach other hother)

/-- Work takes place on Mondays, unless one of two other periods is active, of
which each is kept from that by a third one. -/
def workSpecs : SortedMap PeriodName PeriodSpec :=
  let mondays : SortedMap String (List String) :=
    .ofList [("monday", ["00:00-24:00"])]
  .ofList [("work", { days := mondays, exclude := ["a", "b", "nowhere"] }),
    ("a", { days := mondays, exclude := ["c"] }),
    ("b", { days := mondays, exclude := ["c"] }),
    ("c", { days := mondays })]

/-- Each step leads further down. -/
private theorem workSpecs_acyclic (name : PeriodName) :
    ¬ Relation.TransGen (ConfiguredToExclude workSpecs) name name := by
  let depth (name : PeriodName) : Nat :=
    if name = "work" then 3 else if name = "a" ∨ name = "b" then 2
    else if name = "c" then 1 else 0
  have hstep : ∀ name other, ConfiguredToExclude workSpecs name other →
      depth other < depth name := by
    rintro name other ⟨spec, hspec, hother⟩
    have hmem := SortedMap.mem_of_get?_ofList hspec
    simp only [List.mem_cons, Prod.mk.injEq, List.not_mem_nil, or_false]
      at hmem
    rcases hmem with ⟨rfl, rfl⟩ | ⟨rfl, rfl⟩ | ⟨rfl, rfl⟩ | ⟨rfl, rfl⟩
    · simp only [List.mem_cons, List.not_mem_nil, or_false] at hother
      rcases hother with rfl | rfl | rfl <;> decide
    · rw [List.mem_singleton.mp hother]
      decide
    · rw [List.mem_singleton.mp hother]
      decide
    · cases hother
  have hpath : ∀ other, Relation.TransGen (ConfiguredToExclude workSpecs) name
      other → depth other < depth name := by
    intro other hpath
    induction hpath with
    | single h => exact hstep _ _ h
    | tail _ h ih => exact Nat.lt_trans (hstep _ _ h) ih
  exact fun h => Nat.lt_irrefl _ (hpath name h)

/-- On a Monday the third period is active, so the two others are not, and work
takes place. -/
theorem isActive_exact_work :
    let monday : Instant := ⟨1704101400⟩
    ∃ periods, ofSpecs workSpecs = .ok periods
      ∧ (∀ name, ¬ Relation.TransGen (ConfiguredToExclude workSpecs) name name)
      ∧ periods.isActive monday "c" = true
      ∧ periods.isActive monday "a" = false
      ∧ periods.isActive monday "b" = false
      ∧ periods.isActive monday "work" = true := by
  intro monday
  have hsome : (ofSpecs workSpecs).toOption.isSome = true := by decide +kernel
  generalize hspecs : ofSpecs workSpecs = result at hsome
  cases result with
  | error e => cases hsome
  | ok periods =>
      have hexact := (isActive_exact hspecs monday).2.2.2.1 workSpecs_acyclic
      have hcovers : ∀ exclude, PeriodSpec.Covers
          { days := .ofList [("monday", ["00:00-24:00"])], exclude } monday :=
        fun exclude => ⟨"monday", ["00:00-24:00"], "00:00-24:00", ⟨0, 1440⟩,
          rfl, by decide +kernel, List.mem_singleton_self _, by decide +kernel,
          by decide +kernel⟩
      have hc : periods.isActive monday "c" = true :=
        (hexact "c" _ rfl (by decide)).mpr
          ⟨hcovers [], fun other hother => by cases hother⟩
      have hkept : ∀ name, workSpecs.get? name = some
            { days := .ofList [("monday", ["00:00-24:00"])], exclude := ["c"] } →
          name ≠ always → periods.isActive monday name = false := by
        intro name hname halways
        rw [← Bool.not_eq_true, hexact name _ hname halways]
        rintro ⟨-, hothers⟩
        have hother := hothers "c" (List.mem_singleton_self _) rfl
        rw [hc] at hother
        cases hother
      have ha := hkept "a" rfl (by decide)
      have hb := hkept "b" rfl (by decide)
      refine ⟨periods, rfl, workSpecs_acyclic, hc, ha, hb,
        (hexact "work" _ rfl (by decide)).mpr ⟨hcovers _, ?_⟩⟩
      intro other hother hdeclared
      simp only [List.mem_cons, List.not_mem_nil, or_false] at hother
      rcases hother with rfl | rfl | rfl
      · exact ha
      · exact hb
      · cases hdeclared

end Periods

end HostWatch
