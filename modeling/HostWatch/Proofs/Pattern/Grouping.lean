/-
The patterns that can be read here are a language as documented.

What has to be shown is what becomes of a text when a group is put around it,
alone (`grouped`) or behind `^` (`anchored`). Both are read like the text itself
with one more group around everything and a parenthesis behind it, whatever is
in front of the group; so the reader comes to the end of the text as it does
without the group, to a parenthesis that ends the group early, or to a comment
that runs over the end (`Accepts.of_inside_group`, `Accepts.inside_group`,
`EndsInComment.staysOpen`).

That `^` makes no difference to whether a text is well formed is a matter of its
own, as a text can also go on behind its group in any way. It is so because no
step depends on the patterns that have been read before (`Accepts.of_level`).
-/
import HostWatch.Proofs.Pattern.Matching
import HostWatch.Proofs.Pattern.Run
import HostWatch.Proofs.PatternLanguage

namespace HostWatch.Pattern

open PatternLanguage (IsPattern grouped anchored compile)

variable {s : List Char} {p : Pattern} {depth : Nat} {result a : Pattern × Nat}
    {g : Group} {text whole : String}

-- ==================================================== a group around a text

/-- What a group comes to that has one more element, which is a group of its
own. -/
def Group.around (g : Group) (a : Pattern × Nat) : Pattern × Nat :=
  (g.add { pattern := a.1, depth := a.2 + 1 }).close

/-- A text is well formed, and a parenthesis behind it is part of a comment. -/
def EndsInComment (s : List Char) : Prop :=
  (∃ result, Accepts (.start, s) result)
    ∧ ∃ result, Accepts (.start, s ++ [')']) result

/-- A text that is accepted inside of a group either ends the group itself or is
well formed, and the group has what the text alone denotes. -/
theorem Accepts.of_inside_group
    (h : Accepts (Reading.start.inside g, s ++ [')']) result) :
    ClosesEarly (.start, s)
      ∨ ∃ a, Accepts (.start, s) a ∧ g.around a = result := by
  obtain ⟨r, t, rest, hrun, houter, hskip, hrest⟩ := h.of_inside
  obtain ⟨s', hrun', htrails⟩ | hhalted := hrun.of_trails (trails_append s)
  · cases hs : r.group.flags.skip s' with
    | nil =>
        -- the parenthesis that ends the group is the one behind the text
        have hend : rest = [] := by
          obtain ht | ht := htrails.skip_eq_nil hs <;> rw [hskip] at ht <;>
            cases ht
          rfl
        subst hend
        obtain ⟨-, hclose⟩ :=
          (accepts_of_skip_eq_nil (Flags.skip_nil _)).mp hrest
        exact .inr ⟨r.group.close, ⟨(r, s'), hrun', hs, houter, rfl⟩, hclose⟩
    | cons c more =>
        have heq := htrails.skip_eq_cons hs
        rw [hskip] at heq
        cases heq
        exact .inl ⟨(r, s'), more, hrun', houter, hs⟩
  · exact ((hhalted _ _ hskip).1 rfl).elim

/-- A text that is well formed is accepted inside of a group, unless it ends in
a comment. -/
theorem Accepts.inside_group (h : Accepts (.start, s) a)
    (hcomment : ¬ EndsInComment s) :
    Accepts (Reading.start.inside g, s ++ [')']) (g.around a) := by
  have hs := h
  obtain ⟨⟨r, s'⟩, hrun, hskip, houter, rfl⟩ := h
  obtain ⟨t, hrun', htrails⟩ := hrun.trails (trails_append s)
  obtain ht | ht := htrails.skip_eq_nil hskip
  · have hleave : Accepts (r.leave g, []) (g.around r.group.close) :=
      (accepts_of_skip_eq_nil (Flags.skip_nil _)).mpr ⟨rfl, rfl⟩
    exact (hrun'.leave houter ht g).accepts_iff.mpr hleave
  · exact (hcomment ⟨⟨_, hs⟩, _, (r, t), hrun', ht, houter, rfl⟩).elim

/-- And if it does, the group is still open at the end. -/
theorem EndsInComment.staysOpen (h : EndsInComment s) (g : Group) :
    StaysOpen (Reading.start.inside g, s ++ [')']) := by
  obtain ⟨-, _, ⟨r, t⟩, hrun, hskip, -⟩ := h
  exact ⟨(r.inside g, t), hrun.inside g, by simp [Reading.inside], hskip⟩

/-- What else is in the group does not matter for that: when the text leaves the
group, the reader is in the same state but for the patterns in the group. -/
theorem Accepts.exists_inside (h : Accepts (Reading.start.inside g, s) result)
    (g' : Group) (hflags : g.flags = g'.flags) :
    ∃ result', Accepts (Reading.start.inside g', s) result' := by
  obtain ⟨r, t, rest, hrun, houter, hskip, hrest⟩ := h.of_inside
  have hlevel : Level (r.leave g, rest) (r.leave g', rest) :=
    ⟨⟨⟨hflags, rfl⟩, .nil, rfl⟩, rfl⟩
  obtain ⟨result', hrest'⟩ := hrest.of_level hlevel
  exact ⟨result', (hrun.leave houter hskip g').accepts_iff.mpr hrest'⟩

-- ==================================================== the start of a text

/-- A pattern behind the start of the text. -/
def atStart (p : Pattern) : Pattern :=
  if p = empty then .assertion .textStart
  else .sequence (.assertion .textStart) p

/-- It matches what the pattern matches from the first character on. -/
theorem exists_spans_atStart_iff {i : Nat} (hi : i ≤ s.length) :
    (∃ j, p.atStart.Spans s i j) ↔ i = 0 ∧ ∃ j, p.Spans s 0 j := by
  have hspot : Assertion.textStart.holds (charBefore s i) s[i]? = true
      ↔ i = 0 := by
    cases i with
    | zero => simp [charBefore, Assertion.holds]
    | succ i =>
        simp [charBefore, Assertion.holds]
        omega
  unfold atStart
  split
  · rename_i hempty
    subst hempty
    simp [hspot, Spans]
  · simp only [Spans, hspot]
    constructor
    · rintro ⟨j, _, ⟨rfl, rfl⟩, hspans⟩
      exact ⟨rfl, j, hspans⟩
    · rintro ⟨rfl, j, hspans⟩
      exact ⟨j, 0, ⟨rfl, rfl⟩, hspans⟩

theorem sequenceOf_singleton (p : Pattern) : sequenceOf [p] = p := by
  by_cases hempty : p = empty
  · subst hempty
    rfl
  · simp [sequenceOf, hempty]
    rfl

theorem sequenceOf_textStart (p : Pattern) :
    sequenceOf [.assertion .textStart, p] = p.atStart := by
  unfold atStart
  by_cases hempty : p = empty
  · subst hempty
    rfl
  · simp [sequenceOf, hempty]
    rfl

theorem eitherOf_singleton (p : Pattern) : eitherOf [p] = p := by
  cases p <;> rfl

-- ==================================================== the two texts

/-- What is in front of the group of an anchored text. -/
def caret : Group :=
  { flags := {}, elements := [{ pattern := .assertion .textStart }] }

theorem start_around :
    Reading.start.group.around (p, depth) = (p, depth + 1) := by
  simp [Group.around, Reading.start, Group.add, Group.close,
    Group.endAlternative, depthOf, sequenceOf_singleton, eitherOf_singleton]

theorem caret_around : caret.around (p, depth) = (p.atStart, depth + 2) := by
  simp [Group.around, caret, Group.add, Group.close, Group.endAlternative,
    depthOf, sequenceOf_textStart, eitherOf_singleton]

theorem run_grouped (text : String) : Run (.start, (grouped text).toList)
    (Reading.start.inside Reading.start.group, text.toList ++ [')']) := by
  have htext : (grouped text).toList
      = '(' :: '?' :: ':' :: (text.toList ++ [')']) := by
    simp only [grouped, String.toList_append, List.append_assoc]
    rfl
  rw [htext]
  exact .single ⟨_, _, rfl, rfl⟩

theorem run_anchored (text : String) : Run (.start, (anchored text).toList)
    (Reading.start.inside caret, text.toList ++ [')']) := by
  have htext : (anchored text).toList
      = '^' :: '(' :: '?' :: ':' :: (text.toList ++ [')']) := by
    simp only [anchored, String.toList_append, List.append_assoc]
    rfl
  have hcaret : Moves (.start, (anchored text).toList)
      ({ group := caret }, '(' :: '?' :: ':' :: (text.toList ++ [')'])) := by
    rw [htext]
    exact ⟨_, _, rfl, rfl⟩
  exact .head hcaret (.single ⟨_, _, rfl, rfl⟩)

theorem EndsInComment.read_eq (h : EndsInComment text.toList)
    (hrun : Run (.start, whole.toList)
      (Reading.start.inside g, text.toList ++ [')'])) :
    read whole = .error .unclosed := by
  obtain ⟨b, hopen, hb⟩ := h.staysOpen g
  exact StaysOpen.read_eq ⟨b, hrun.trans hopen, hb⟩

/-- What can be read is read in a group, unless it ends in a comment or the
group is one too many. -/
theorem read_grouped (h : read text = .ok p) :
    read (grouped text) = .ok p ∨ read (grouped text) = .error .unclosed
      ∨ read (grouped text) = .error .tooLarge := by
  obtain ⟨depth, haccepts, -, -⟩ := read_eq_ok_iff.mp h
  by_cases hcomment : EndsInComment text.toList
  · exact .inr (.inl (hcomment.read_eq (run_grouped text)))
  · have hgroup := haccepts.inside_group (g := Reading.start.group) hcomment
    rw [start_around, ← (run_grouped text).accepts_iff] at hgroup
    exact hgroup.read_or_tooLarge.imp_right .inr

/-- And if it is read in a group, it is read behind `^`, unless that is too
much. -/
theorem read_anchored (h : read text = .ok p)
    (hgrouped : read (grouped text) = .ok p) :
    read (anchored text) = .ok p.atStart
      ∨ read (anchored text) = .error .tooLarge := by
  obtain ⟨depth, haccepts, -, -⟩ := read_eq_ok_iff.mp h
  have hcomment : ¬ EndsInComment text.toList := by
    intro hcomment
    rw [hcomment.read_eq (run_grouped text)] at hgrouped
    cases hgrouped
  have hgroup := haccepts.inside_group (g := caret) hcomment
  rw [caret_around, ← (run_anchored text).accepts_iff] at hgroup
  exact hgroup.read_or_tooLarge

/-- What can be read in a group can be read alone, unless it ends the group. -/
theorem read_of_grouped (h : read (grouped text) = .ok p) :
    read text = .ok p ∨ read text = .error .unopened := by
  obtain ⟨_, haccepts, hdepth, hsmall⟩ := read_eq_ok_iff.mp h
  rw [(run_grouped text).accepts_iff] at haccepts
  obtain hearly | ⟨⟨q, depth⟩, halone, hq⟩ := haccepts.of_inside_group
  · exact .inr hearly.read_eq
  · rw [start_around] at hq
    cases hq
    exact .inl (read_eq_ok_iff.mpr ⟨depth, halone, by omega, hsmall⟩)

-- ==================================================== the language

/-- A text is a pattern that matches a part of a name from behind the first `i`
characters on. -/
def Begins (text name : String) (i : Nat) : Prop :=
  ∃ p, read text = .ok p ∧ i ≤ name.toList.length
    ∧ ∃ j, p.Spans name.toList i j

theorem compile_eq (text : String) : compile text
    = (read text).map fun p name => p.matchesIn name.toList := rfl

theorem isPattern_iff : IsPattern text ↔ ∃ p, read text = .ok p := by
  unfold IsPattern
  rw [compile_eq]
  cases read text <;> simp [Except.map]

theorem compile_eq_error_iff {fault : PatternFault} :
    compile text = .error fault ↔ read text = .error fault := by
  rw [compile_eq]
  cases read text <;> simp [Except.map]

/-- What stands in front of the group around a text does not matter to whether
the whole is a pattern, unless it is too much. -/
theorem isPattern_of_inside {g' : Group} {whole' : String}
    (h : IsPattern whole)
    (hrun : Run (.start, whole.toList) (Reading.start.inside g, s))
    (hrun' : Run (.start, whole'.toList) (Reading.start.inside g', s))
    (hflags : g.flags = g'.flags) :
    IsPattern whole' ∨ compile whole' = .error .tooLarge := by
  obtain ⟨p, hp⟩ := isPattern_iff.mp h
  obtain ⟨depth, haccepts, -⟩ := read_eq_ok_iff.mp hp
  rw [hrun.accepts_iff] at haccepts
  obtain ⟨result, haccepts'⟩ := haccepts.exists_inside g' hflags
  rw [← hrun'.accepts_iff] at haccepts'
  rw [isPattern_iff, compile_eq_error_iff]
  exact haccepts'.read_or_tooLarge.imp_left fun hread => ⟨result.1, hread⟩

theorem begins_iff (h : read text = .ok p) {name : String} {i : Nat} :
    Begins text name i
      ↔ i ≤ name.toList.length ∧ ∃ j, p.Spans name.toList i j := by
  unfold Begins
  simp [h]

theorem begins_atStart_iff (h : read text = .ok p)
    (hwhole : read whole = .ok p.atStart) (name : String) (i : Nat) :
    Begins whole name i ↔ i = 0 ∧ Begins text name 0 := by
  rw [begins_iff hwhole, begins_iff h]
  constructor
  · rintro ⟨hi, hspans⟩
    obtain ⟨rfl, hstart⟩ := (exists_spans_atStart_iff hi).mp hspans
    exact ⟨rfl, hi, hstart⟩
  · rintro ⟨rfl, hi, hspans⟩
    exact ⟨hi, (exists_spans_atStart_iff hi).mpr ⟨rfl, hspans⟩⟩

/-- The patterns that can be read are a language as documented. -/
theorem documented : PatternLanguage.Documented Begins where
  search := by
    intro text isMatch hcompile name
    rw [compile_eq] at hcompile
    cases hread : read text with
    | error fault =>
        rw [hread] at hcompile
        cases hcompile
    | ok p =>
        rw [hread] at hcompile
        cases hcompile
        simp only [begins_iff hread]
        exact matchesIn_iff
  group := by
    intro text hpattern
    obtain ⟨p, hp⟩ := isPattern_iff.mp hpattern
    simp only [isPattern_iff, compile_eq_error_iff]
    obtain hgrouped | hrefused := read_grouped hp
    · refine .inl ⟨⟨p, hgrouped⟩, fun name i => ?_⟩
      rw [begins_iff hgrouped, begins_iff hp]
    · exact .inr hrefused
  ungroup := by
    intro text hgrouped
    obtain ⟨p, hp⟩ := isPattern_iff.mp hgrouped
    rw [isPattern_iff, compile_eq_error_iff]
    exact (read_of_grouped hp).imp_left fun h => ⟨p, h⟩
  caret h := isPattern_of_inside h (run_grouped _) (run_anchored _) rfl
  uncaret h := isPattern_of_inside h (run_anchored _) (run_grouped _) rfl
  start := by
    intro text hpattern hgrouped hanchored
    obtain ⟨p, hp⟩ := isPattern_iff.mp hpattern
    obtain ⟨q, hq⟩ := isPattern_iff.mp hgrouped
    obtain ⟨w, hw⟩ := isPattern_iff.mp hanchored
    -- alone and in the group it is the same pattern
    have hsame : read (grouped text) = .ok p := by
      rcases read_grouped hp with h | h | h
      · exact h
      · cases h.symm.trans hq
      · cases h.symm.trans hq
    have hwhole : read (anchored text) = .ok p.atStart := by
      rcases read_anchored hp hsame with h | h
      · exact h
      · cases h.symm.trans hw
    exact begins_atStart_iff hsame hwhole

end HostWatch.Pattern
