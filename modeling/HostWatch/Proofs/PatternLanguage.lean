/-
A pattern that has to match at the start of a name.

Such a pattern is made by writing `^(?:` in front of a text and `)` behind it.
What comes of that depends on the language of patterns, of which only what is
written down in `Documented` is taken for granted: what a test is for, and what
becomes of a text when a group is put around it and `^` in front of the group.

A group is put around a text and not around a pattern, so the text has to stay
inside of it (`StaysInside`). One that closes a parenthesis too many can end the
group and go on behind it, and one that ends in a comment takes the end of the
group with it. For all others the whole is a pattern if the text is, and matches
what the text matches from the first character on (`StaysInside.isPattern_iff`,
`StaysInside.isMatch_iff`). Apart from limits on size, it is so for no text that
does not stay inside (`staysInside_iff`).
-/
import HostWatch.PatternLanguage

namespace HostWatch.PatternLanguage

variable [PatternLanguage]

-- ==================================================== the language

/-- A text is a pattern. -/
def IsPattern (text : String) : Prop := ∃ isMatch, compile text = .ok isMatch

/-- A text in a group. -/
def grouped (text : String) : String := s!"(?:{text})"

/-- A text in a group, behind the start of a name. -/
def anchored (text : String) : String := s!"^(?:{text})"

/-- What is documented of a language of patterns, where `Begins text name i`
says that the pattern `text` matches a part of a name that begins behind the
first `i` characters. -/
structure Documented (Begins : String → String → Nat → Prop) : Prop where
  /-- A test finds a match anywhere in a name. -/
  search : ∀ {text isMatch}, compile text = .ok isMatch →
    ∀ name, isMatch name = true ↔ ∃ i, Begins text name i
  /-- In a group a pattern matches what it matches alone. But if it ends in a
  comment, the parenthesis behind it belongs to the comment; and a group can be
  one level too many. -/
  group : ∀ {text}, IsPattern text →
    (IsPattern (grouped text)
        ∧ ∀ name i, Begins (grouped text) name i ↔ Begins text name i)
      ∨ compile (grouped text) = .error .unclosed
      ∨ compile (grouped text) = .error .tooLarge
  /-- Texts are read from the front. So a text that is no pattern is none in a
  group, unless it comes to a parenthesis by which the group can end. -/
  ungroup : ∀ {text}, IsPattern (grouped text) →
    IsPattern text ∨ compile text = .error .unopened
  /-- A pattern that begins with a group is a pattern behind `^`, unless that is
  too much. -/
  caret : ∀ {text}, IsPattern (grouped text) →
    IsPattern (anchored text) ∨ compile (anchored text) = .error .tooLarge
  /-- But `^` does not make good what is wrong behind it. -/
  uncaret : ∀ {text}, IsPattern (anchored text) →
    IsPattern (grouped text) ∨ compile (grouped text) = .error .tooLarge
  /-- It holds at the start of a name only, and a group behind it has to match
  from there. The text in the group is a pattern here, so that nothing goes on
  behind the group. -/
  start : ∀ {text}, IsPattern text → IsPattern (grouped text) →
    IsPattern (anchored text) → ∀ name i,
      Begins (anchored text) name i ↔ i = 0 ∧ Begins (grouped text) name 0

-- ==================================================== staying inside

/-- A text stays inside of the group that is put around it. -/
structure StaysInside (text : String) : Prop where
  /-- If it closes a parenthesis too many, that does not end the group. -/
  not_closed : compile text = .error .unopened → ¬ IsPattern (grouped text)
  /-- It does not hide the end of the group in a comment. -/
  not_hidden : IsPattern text → compile (grouped text) ≠ .error .unclosed
  /-- It is not the group, or `^`, that takes it beyond the limits. -/
  fits : IsPattern text ∨ IsPattern (anchored text) →
    compile (grouped text) ≠ .error .tooLarge
      ∧ compile (anchored text) ≠ .error .tooLarge

variable {Begins : String → String → Nat → Prop} {text : String}

namespace StaysInside

theorem of_isPattern (hgrouped : IsPattern (grouped text))
    (hanchored : IsPattern (anchored text)) (h : IsPattern text) :
    StaysInside text := by
  obtain ⟨_, h⟩ := h
  obtain ⟨_, hgrouped⟩ := hgrouped
  obtain ⟨_, hanchored⟩ := hanchored
  exact ⟨by simp [h], by simp [hgrouped], by simp [hgrouped, hanchored]⟩

/-- The whole is a pattern if the text is, and matches nowhere but at the start
of a name. -/
theorem isPattern_anchored (h : StaysInside text)
    (hlanguage : Documented Begins) (hpattern : IsPattern text) :
    IsPattern (anchored text) ∧ ∀ name i, Begins (anchored text) name i
      ↔ i = 0 ∧ Begins text name 0 := by
  obtain ⟨hgroupedFits, hanchoredFits⟩ := h.fits (.inl hpattern)
  obtain ⟨hgrouped, hbegins⟩ | hopen | hlarge := hlanguage.group hpattern
  · obtain hanchored | hlarge := hlanguage.caret hgrouped
    · refine ⟨hanchored, fun name i => ?_⟩
      rw [hlanguage.start hpattern hgrouped hanchored, hbegins]
    · exact (hanchoredFits hlarge).elim
  · exact (h.not_hidden hpattern hopen).elim
  · exact (hgroupedFits hlarge).elim

theorem isPattern_iff (h : StaysInside text) (hlanguage : Documented Begins) :
    IsPattern (anchored text) ↔ IsPattern text := by
  constructor
  · intro hanchored
    obtain hgrouped | hlarge := hlanguage.uncaret hanchored
    · obtain hpattern | hearly := hlanguage.ungroup hgrouped
      · exact hpattern
      · exact (h.not_closed hearly hgrouped).elim
    · exact ((h.fits (.inr hanchored)).1 hlarge).elim
  · exact fun hpattern => (h.isPattern_anchored hlanguage hpattern).1

/-- A name passes the test of the whole if the text is a pattern that matches
from the first character on. -/
theorem isMatch_iff (h : StaysInside text) (hlanguage : Documented Begins)
    (name : String) :
    (∃ isMatch, compile (anchored text) = .ok isMatch ∧ isMatch name = true)
      ↔ IsPattern text ∧ Begins text name 0 := by
  constructor
  · rintro ⟨isMatch, hcompile, hmatch⟩
    have hpattern := (h.isPattern_iff hlanguage).mp ⟨isMatch, hcompile⟩
    obtain ⟨-, hbegins⟩ := h.isPattern_anchored hlanguage hpattern
    obtain ⟨i, hi⟩ := (hlanguage.search hcompile name).mp hmatch
    exact ⟨hpattern, ((hbegins name i).mp hi).2⟩
  · rintro ⟨hpattern, hstart⟩
    obtain ⟨⟨isMatch, hcompile⟩, hbegins⟩ :=
      h.isPattern_anchored hlanguage hpattern
    exact ⟨isMatch, hcompile, (hlanguage.search hcompile name).mpr
      ⟨0, (hbegins name 0).mpr ⟨rfl, hstart⟩⟩⟩

end StaysInside

/-- Where the limits do not come into it, these are all the texts for which the
whole is a pattern exactly if the text is. -/
theorem staysInside_iff (hlanguage : Documented Begins)
    (hgrouped : compile (grouped text) ≠ .error .tooLarge)
    (hanchored : compile (anchored text) ≠ .error .tooLarge) :
    StaysInside text ↔ (IsPattern (anchored text) ↔ IsPattern text) := by
  constructor
  · exact fun h => h.isPattern_iff hlanguage
  · intro hiff
    refine ⟨fun hearly hpattern => ?_, fun hpattern hopen => ?_,
      fun _ => ⟨hgrouped, hanchored⟩⟩
    · -- the whole would be a pattern, and so the text
      obtain hwhole | hlarge := hlanguage.caret hpattern
      · obtain ⟨_, htext⟩ := hiff.mp hwhole
        rw [hearly] at htext
        cases htext
      · exact hanchored hlarge
    · obtain ⟨_, hinside⟩ | hlarge := hlanguage.uncaret (hiff.mpr hpattern)
      · rw [hopen] at hinside
        cases hinside
      · exact hgrouped hlarge

end HostWatch.PatternLanguage
