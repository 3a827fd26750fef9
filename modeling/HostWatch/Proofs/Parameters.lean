/-
Which value a parameter has in the end.

Three times something is laid over something else on the way from the
configuration to the parameters of a check: the value of a time period over
the default of its set, the earlier sets over the later ones, and the whole
over the defaults of the plugin. Read back from one key these are three
steps of one search: the sets in their order, then the plugin
(`compute_precedence`). What a single set amounts to is said by rules
(`ParameterSet.Holds`), one for each way in which a default and a time
period can meet; the evaluation is the one value that they allow
(`holds_iff`).

A value that is no record ends the search in two different ways, and the
statement keeps them apart. If a set comes to one, by a time period, the
set is passed over. If the first set has one as its default, nothing else
counts at all.
-/
import HostWatch.Parameters
import HostWatch.Proofs.SortedMap

namespace HostWatch

-- ==================================================== records

namespace Value

theorem fields?_ofFields (fields : Fields) :
    (ofFields fields).fields? = some fields := by
  rw [ofFields, fields?, SortedMap.ofList_entries]

/-- A value is a record exactly if it has fields. -/
theorem isRecord_iff {v : Value} :
    v.isRecord = true ↔ ∃ fields, v.fields? = some fields := by
  cases v with
  | record fields => exact ⟨fun _ => ⟨_, rfl⟩, fun _ => rfl⟩
  | null | bool | int | float | text | list =>
      exact ⟨fun h => (by cases h), fun ⟨_, h⟩ => (by cases h)⟩

theorem fields?_of_not_record {v : Value} (h : v.isRecord = false) :
    v.fields? = none := by
  cases v with
  | record fields => cases h
  | null | bool | int | float | text | list => rfl

end Value

-- ==================================================== one set

namespace ParameterSet

variable {oracle : PeriodOracle} {set : ParameterSet}

/-- A value of a set is that of the first active time period. -/
def FirstActive (oracle : PeriodOracle) (set : ParameterSet) (v : Value) :
    Prop :=
  ∃ earlier period later, set.periodValues = earlier ++ (period, v) :: later
    ∧ oracle period = true ∧ ∀ e ∈ earlier, oracle e.1 = false

/-- The rules for the value of a set. -/
inductive Holds (oracle : PeriodOracle) (set : ParameterSet) : Value → Prop
  /-- A default that is no record holds at all times. -/
  | fixed (h : set.default.isRecord = false) : Holds oracle set set.default
  /-- Outside of all time periods the default holds. -/
  | outside (h : set.default.isRecord = true)
      (hnone : ∀ e ∈ set.periodValues, oracle e.1 = false) :
      Holds oracle set set.default
  /-- A record is laid over the default, key by key. -/
  | overlaid {v : Value} {default top fields : Fields}
      (h : set.default.fields? = some default)
      (hactive : set.FirstActive oracle v) (hv : v.fields? = some top)
      (hfields : ∀ k, fields.get? k = (top.get? k).or (default.get? k)) :
      Holds oracle set (.ofFields fields)
  /-- Any other value takes the place of the default. -/
  | replaced {v : Value} (h : set.default.isRecord = true)
      (hactive : set.FirstActive oracle v) (hv : v.isRecord = false) :
      Holds oracle set v

/-- The search for an active time period finds the first one. -/
private theorem find?_eq_some_iff {v : Value} :
    (∃ period, set.periodValues.find? (fun e => oracle e.1)
        = some (period, v))
      ↔ set.FirstActive oracle v := by
  unfold FirstActive
  simp only [List.find?_eq_some_iff_append]
  constructor
  · rintro ⟨period, hactive, earlier, later, hsplit, hearlier⟩
    refine ⟨earlier, period, later, hsplit, hactive, fun e he => ?_⟩
    have := hearlier e he
    simpa using this
  · rintro ⟨earlier, period, later, hsplit, hactive, hearlier⟩
    refine ⟨period, hactive, earlier, later, hsplit, fun e he => ?_⟩
    rw [hearlier e he]
    rfl

private theorem find?_eq_none_iff :
    set.periodValues.find? (fun e => oracle e.1) = none
      ↔ ∀ e ∈ set.periodValues, oracle e.1 = false := by
  rw [List.find?_eq_none]
  simp only [Bool.not_eq_true]

/-- The evaluation follows the rules. -/
private theorem holds_evaluate (oracle : PeriodOracle) (set : ParameterSet) :
    set.Holds oracle (set.evaluate oracle) := by
  unfold evaluate
  cases hdefault : set.default.fields? with
  | none =>
      refine .fixed ?_
      rw [Bool.eq_false_iff, ne_eq, Value.isRecord_iff, hdefault]
      rintro ⟨_, h⟩
      cases h
  | some default =>
      have hrecord : set.default.isRecord = true :=
        Value.isRecord_iff.mpr ⟨default, hdefault⟩
      cases hfind : set.periodValues.find? (fun e => oracle e.1) with
      | none => exact .outside hrecord (find?_eq_none_iff.mp hfind)
      | some found =>
          obtain ⟨period, v⟩ := found
          have hactive : set.FirstActive oracle v :=
            find?_eq_some_iff.mp ⟨period, hfind⟩
          cases hv : v.fields? with
          | none =>
              simp only [hv]
              refine .replaced hrecord hactive ?_
              rw [Bool.eq_false_iff, ne_eq, Value.isRecord_iff, hv]
              rintro ⟨_, h⟩
              cases h
          | some top =>
              simp only [hv]
              exact .overlaid hdefault hactive hv
                (SortedMap.get?_overlay default top)

/-- The rules leave no choice: they allow what the evaluation comes to. -/
private theorem evaluate_of_holds {v : Value} (h : set.Holds oracle v) :
    set.evaluate oracle = v := by
  unfold evaluate
  cases h with
  | fixed hfixed => rw [Value.fields?_of_not_record hfixed]
  | outside hrecord hnone =>
      obtain ⟨default, hdefault⟩ := Value.isRecord_iff.mp hrecord
      rw [hdefault, find?_eq_none_iff.mpr hnone]
  | @overlaid v default top fields hdefault hactive hv hfields =>
      obtain ⟨period, hfind⟩ := find?_eq_some_iff.mpr hactive
      rw [hdefault, hfind]
      simp only [hv]
      congr 1
      refine SortedMap.ext_get? fun k => ?_
      rw [SortedMap.get?_overlay, hfields]
  | replaced hrecord hactive hv =>
      obtain ⟨default, hdefault⟩ := Value.isRecord_iff.mp hrecord
      obtain ⟨period, hfind⟩ := find?_eq_some_iff.mpr hactive
      rw [hdefault, hfind]
      simp only [Value.fields?_of_not_record hv]

/-- A set comes to exactly the value that the rules allow. -/
theorem holds_iff {v : Value} :
    set.Holds oracle v ↔ set.evaluate oracle = v :=
  ⟨evaluate_of_holds, fun h => h ▸ holds_evaluate oracle set⟩

/-- What a set has for a key: nothing, if it does not come to a record. -/
def value? (oracle : PeriodOracle) (set : ParameterSet) (key : String) :
    Option Value :=
  (set.evaluate oracle).fields?.bind (·.get? key)

end ParameterSet

-- ==================================================== all sets

namespace ParameterConfig

variable {c : ParameterConfig} {oracle : PeriodOracle} {defaults : Value}

/-- Whether the sets are merged: there is none, or the default of the first
one is a record. -/
def Merges (c : ParameterConfig) : Prop :=
  ∀ first ∈ c.sets.head?, first.default.isRecord = true

/-- The first set that has a value for a key wins. -/
theorem get?_mergedFields (oracle : PeriodOracle) (key : String) :
    ∀ sets : List ParameterSet, (mergedFields oracle sets).get? key
      = sets.findSome? (·.value? oracle key) := by
  intro sets
  unfold mergedFields
  induction sets with
  | nil => rfl
  | cons set rest ih =>
      rw [List.findSome?_cons, List.foldr_cons]
      unfold ParameterSet.value?
      cases hset : (set.evaluate oracle).fields? with
      | none => exact ih
      | some fields =>
          simp only [Option.bind_some]
          rw [SortedMap.get?_overlay, ih]
          cases fields.get? key <;> rfl

theorem evaluate_of_merges (h : c.Merges) :
    (c.evaluate oracle).fields? = some (mergedFields oracle c.sets) := by
  obtain ⟨sets⟩ := c
  cases sets with
  | nil => exact Value.fields?_ofFields ∅
  | cons first rest =>
      have hfirst : first.default.isRecord = true := h first rfl
      unfold evaluate
      simp only [hfirst, if_true]
      exact Value.fields?_ofFields _

/-- A first default that is no record is all that the sets come to. -/
theorem evaluate_of_fixed {first : ParameterSet}
    (hfirst : c.sets.head? = some first)
    (hfixed : first.default.isRecord = false) :
    c.evaluate oracle = first.default := by
  obtain ⟨sets⟩ := c
  cases sets with
  | nil => cases hfirst
  | cons first' rest =>
      cases hfirst
      unfold evaluate
      simp only [hfixed, Bool.false_eq_true, if_false]
      exact ParameterSet.holds_iff.mp (.fixed hfixed)

theorem get?_compute {plugin : Fields} (h : c.Merges)
    (hplugin : defaults.fields? = some plugin) (key : String) :
    (c.compute defaults oracle).get? key
      = (c.sets.findSome? (·.value? oracle key)).or (plugin.get? key) := by
  unfold compute
  simp only [hplugin, evaluate_of_merges h]
  rw [SortedMap.get?_overlay, get?_mergedFields]

theorem compute_of_fixed {first : ParameterSet}
    (hfirst : c.sets.head? = some first)
    (hfixed : first.default.isRecord = false) :
    c.compute defaults oracle = Parameters.ofValue first.default := by
  have hevaluate : c.evaluate oracle = first.default :=
    evaluate_of_fixed hfirst hfixed
  have hnone : first.default.fields? = none :=
    Value.fields?_of_not_record hfixed
  unfold compute
  simp only [hevaluate, hnone]

/-- A value that is no record is kept under one key, and nothing is kept of
the value that stands for nothing. -/
theorem ofValue_of_not_record {v : Value} (h : v.isRecord = false) :
    (v = .null → Parameters.ofValue v = ∅)
      ∧ (v ≠ .null →
        Parameters.ofValue v = SortedMap.insert ∅ Parameters.wrapperKey v) := by
  cases v with
  | record fields => cases h
  | null => exact ⟨fun _ => rfl, fun hnull => absurd rfl hnull⟩
  | bool | int | float | text | list =>
      exact ⟨fun hnull => (by cases hnull), fun _ => rfl⟩

-- ==================================================== the main statement

/-- Where a parameter comes from. Each set comes to the one value that its
rules allow. If the sets are merged, a key has the value of the first set
that comes to a record with this key, and that of the plugin's defaults if
there is no such set. If they are not, the first set's default is all there
is, under a key of its own, or nothing if it is null: other sets, time
periods and the defaults of the plugin do not enter. -/
theorem compute_precedence (c : ParameterConfig) (defaults : Value)
    (oracle : PeriodOracle) :
    (∀ set ∈ c.sets, ∀ v,
        set.Holds oracle v ↔ set.evaluate oracle = v)
      ∧ (∀ plugin, defaults.fields? = some plugin →
        (∀ first ∈ c.sets.head?, first.default.isRecord = true) →
        ∀ key, (c.compute defaults oracle).get? key
          = (c.sets.findSome? fun set =>
              (set.evaluate oracle).fields?.bind (·.get? key)).or
            (plugin.get? key))
      ∧ ∀ first, c.sets.head? = some first →
        first.default.isRecord = false →
        (first.default = .null → c.compute defaults oracle = ∅)
          ∧ (first.default ≠ .null → c.compute defaults oracle
            = SortedMap.insert ∅ "auto-migration-wrapper-key"
              first.default) := by
  refine ⟨fun set _ v => ParameterSet.holds_iff, fun plugin hplugin hmerges
    key => get?_compute hmerges hplugin key, fun first hfirst hfixed => ?_⟩
  rw [compute_of_fixed hfirst hfixed]
  exact ofValue_of_not_record hfixed

/-- The first of these sets comes to a text at night, and has no part in the
parameters; the second one has a value for the night, and the third one and
the plugin fill in the rest. -/
def nightConfig : ParameterConfig :=
  ⟨[{ default := .record [("levels", .int 4)]
      periodValues := [("day", .record [("levels", .int 1)]),
        ("night", .text "off")] },
    { default := .record [("average", .int 1), ("levels", .int 5)]
      periodValues := [("night", .record [("average", .int 2)])] },
    .constant (.record [("horizon", .int 9), ("levels", .int 7)])]⟩

theorem compute_precedence_at_night :
    let night : PeriodOracle := fun period => period == "night"
    let defaults : Value := .record [("horizon", .int 1), ("trend", .int 3)]
    let fixed : ParameterConfig := ⟨.constant (.int 80) :: nightConfig.sets⟩
    (nightConfig.compute defaults night).get? "levels" = some (.int 5)
      ∧ (nightConfig.compute defaults night).get? "average" = some (.int 2)
      ∧ (nightConfig.compute defaults night).get? "horizon" = some (.int 9)
      ∧ (nightConfig.compute defaults night).get? "trend" = some (.int 3)
      ∧ (nightConfig.compute defaults night).get? "period" = none
      ∧ fixed.compute defaults night
        = SortedMap.insert ∅ "auto-migration-wrapper-key" (.int 80) := by
  intro night defaults fixed
  have hmerges : ∀ first ∈ nightConfig.sets.head?,
      first.default.isRecord = true := by
    intro first hfirst
    cases hfirst
    rfl
  have hget := (compute_precedence nightConfig defaults night).2.1 _ rfl hmerges
  have hfixed := (compute_precedence fixed defaults night).2.2 _ rfl rfl
  refine ⟨(hget "levels").trans ?_, (hget "average").trans ?_,
    (hget "horizon").trans ?_, (hget "trend").trans ?_,
    (hget "period").trans ?_, hfixed.2 (fun h => (by cases h))⟩
  all_goals with_unfolding_all rfl

end ParameterConfig

end HostWatch
