/-
Which exceptions for missing data take part, and to which plugins they apply.

An exception is meant to be skipped if its text is no pattern, and to match the
names of plugins from their first characters on. It is made into a pattern with
a group around it, and so this is true of exceptions that stay inside of their
groups, in every language of patterns that has the documented ways with groups
(`exceptions_anchored`). It is not true of all exceptions: one that ends its
group itself takes part although it is no pattern, and what stands behind the
group is searched for in the whole name (`exceptions_leave_group`).
-/
import HostWatch.Proofs.MissingData
import HostWatch.Proofs.Pattern.Grouping

namespace HostWatch.HostReport

open PatternLanguage

section

variable [PatternLanguage] {Begins : String → String → Nat → Prop}
    {spec : ExitSpec} {text : String} {plugin : PluginName}

/-- An exception by itself is a pattern that matches a plugin's name from its
first character on. -/
def MatchesFromStart (Begins : String → String → Nat → Prop) (text : String)
    (plugin : PluginName) : Prop :=
  IsPattern text ∧ Begins text plugin 0

theorem specificPattern?_eq_some_iff {isMatch : String → Bool} :
    specificPattern? text = some isMatch
      ↔ compile (anchored text) = .ok isMatch := by
  unfold specificPattern? anchored
  cases compile s!"^(?:{text})" <;> simp [Except.toOption]

theorem isSome_specificPattern? :
    (specificPattern? text).isSome = true ↔ IsPattern (anchored text) := by
  rw [Option.isSome_iff_exists]
  exact exists_congr fun _ => specificPattern?_eq_some_iff

theorem applies_iff (hlanguage : Documented Begins) (h : StaysInside text) :
    Applies text plugin ↔ MatchesFromStart Begins text plugin := by
  unfold Applies MatchesFromStart
  simp only [specificPattern?_eq_some_iff]
  exact h.isMatch_iff hlanguage plugin

/-- Of exceptions that stay inside of the groups around them, those take part
that are patterns by themselves, and each applies to the plugins whose names it
matches from the first character on. The first one that does decides. -/
theorem exceptions_anchored (hlanguage : Documented Begins)
    (h : ∀ entry ∈ spec.specificMissing, StaysInside entry.1)
    (plugin : PluginName) :
    (∀ entry ∈ spec.specificMissing,
      ((specificPattern? entry.1).isSome = true ↔ IsPattern entry.1)
        ∧ (Applies entry.1 plugin ↔ MatchesFromStart Begins entry.1 plugin))
    ∧ ∀ state, specificState? (specificPatterns spec) plugin = some state
      ↔ ∃ before text after,
        spec.specificMissing = before ++ (text, state) :: after
          ∧ MatchesFromStart Begins text plugin
          ∧ ∀ earlier ∈ before, ¬ MatchesFromStart Begins earlier.1 plugin := by
  have happlies : ∀ entry ∈ spec.specificMissing,
      Applies entry.1 plugin ↔ MatchesFromStart Begins entry.1 plugin :=
    fun entry hentry => applies_iff hlanguage (h entry hentry)
  refine ⟨fun entry hentry => ⟨?_, happlies entry hentry⟩, fun state => ?_⟩
  · rw [isSome_specificPattern?]
    exact (h entry hentry).isPattern_iff hlanguage
  · rw [specificState?_eq_some_iff]
    unfold FirstApplies
    refine exists_congr fun before => exists_congr fun text =>
      exists_congr fun after => and_congr_right fun hsplit => ?_
    have htext := happlies (text, state) (by simp [hsplit])
    have hbefore : ∀ earlier ∈ before,
        Applies earlier.1 plugin ↔ MatchesFromStart Begins earlier.1 plugin :=
      fun earlier hearlier => happlies earlier (by simp [hsplit, hearlier])
    refine and_congr htext (forall₂_congr fun earlier hearlier => ?_)
    exact not_congr (hbefore earlier hearlier)

end

/-- Two exceptions, the second one with an alternative. -/
private def alternativeSpec : ExitSpec :=
  { specificMissing := [("net(if)?", .warn), ("df|disk", .ok)] }

private theorem alternativeSpec_staysInside :
    ∀ entry ∈ alternativeSpec.specificMissing, StaysInside entry.1 := by
  have hnet : StaysInside "net(if)?" :=
    .of_isPattern ⟨_, rfl⟩ ⟨_, rfl⟩ ⟨_, rfl⟩
  have hdisk : StaysInside "df|disk" :=
    .of_isPattern ⟨_, rfl⟩ ⟨_, rfl⟩ ⟨_, rfl⟩
  intro entry hentry
  simp only [alternativeSpec, List.mem_cons, List.not_mem_nil, or_false]
    at hentry
  obtain rfl | rfl := hentry
  · exact hnet
  · exact hdisk

/-- Either alternative applies to the names that start with it, and not to one
in which it stands further behind. -/
theorem exceptions_anchored_alternative :
    Documented Pattern.Begins
      ∧ (∀ entry ∈ alternativeSpec.specificMissing, StaysInside entry.1)
      ∧ MatchesFromStart Pattern.Begins "df|disk" "disk_io"
      ∧ ¬ MatchesFromStart Pattern.Begins "df|disk" "host_disk" := by
  have hmem : ("df|disk", State.ok) ∈ alternativeSpec.specificMissing := by
    simp [alternativeSpec]
  have happlies : ∀ plugin, Applies "df|disk" plugin
      ↔ (specificPattern? "df|disk").any (· plugin) = true :=
    fun _ => by rw [Option.any_eq_true, Applies]
  refine ⟨Pattern.documented, alternativeSpec_staysInside, ?_, ?_⟩
  · obtain ⟨hentries, -⟩ := exceptions_anchored Pattern.documented
      alternativeSpec_staysInside "disk_io"
    exact (hentries _ hmem).2.mp ((happlies _).mpr rfl)
  · obtain ⟨hentries, -⟩ := exceptions_anchored Pattern.documented
      alternativeSpec_staysInside "host_disk"
    intro hmatches
    have := (happlies _).mp ((hentries _ hmem).2.mpr hmatches)
    cases this

/-- A text that ends the group around it takes part although it is no pattern by
itself, and what stands behind its parenthesis is not held to the start of a
name; a comment at the end keeps a pattern out. -/
theorem exceptions_leave_group :
    compile "x)|(?:df" = .error .unopened ∧ Applies "x)|(?:df" "netif_df"
      ∧ IsPattern "(?x)df # disks"
      ∧ (specificPattern? "(?x)df # disks").isSome = false := by
  have happlies : (specificPattern? "x)|(?:df").any (· "netif_df") = true :=
    rfl
  refine ⟨rfl, ?_, ⟨_, rfl⟩, rfl⟩
  rwa [Option.any_eq_true] at happlies

end HostWatch.HostReport
