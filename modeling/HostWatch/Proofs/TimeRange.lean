/-
Which texts are time ranges, and which minutes of the day they denote.

The texts are given by a grammar (`RangeText`): two clocks with a dash between
them, blanks around each clock, and in a clock two numbers with a colon between
them. The reader knows no grammar. It cuts at the first dash and at the first
colon, trims, and reads what is left as numbers of 16 bits. That this is the
same depends on which characters a clock can have, digits and two marks: the
first dash and the first colon are the only ones where the text is a range,
and trimming stops where a clock begins and ends (`readClock?_trim_iff`).

The numbers of a clock are checked before anything is computed from them. So
the arithmetic never leaves 16 bits, not in a text either that is refused
later: read in words that wrap around, every text has the same clock
(`readClockWord?_eq`).
-/
import HostWatch.Error
import HostWatch.Proofs.Decimal.Integer
import HostWatch.Proofs.Text.Lines

namespace HostWatch.TimeRange

open Decimal (Unsigned readWord?)

-- ==================================================== the grammar

/-- A text is a clock that shows a minute of the day. -/
inductive ClockText : List Char → Nat → Prop
  | mk {hourText minuteText : List Char} {hour minute : Nat}
      (hhour : Unsigned hourText hour) (hminute : Unsigned minuteText minute)
      (minute_le : minute ≤ 59) (hour_le : hour ≤ 24)
      (midnight : hour = 24 → minute = 0) :
      ClockText (hourText ++ ':' :: minuteText) (60 * hour + minute)

/-- A text is a clock with blanks around it. -/
inductive PaddedClock : List Char → Nat → Prop
  | mk {lead clock tail : List Char} {minute : Nat}
      (hlead : ∀ c ∈ lead, Text.isBlank c = true)
      (hclock : ClockText clock minute)
      (htail : ∀ c ∈ tail, Text.isBlank c = true) :
      PaddedClock (lead ++ clock ++ tail) minute

/-- A text is a range between two clocks, the first of which is not the later
one. -/
inductive RangeText : List Char → TimeRange → Prop
  | mk {first second : List Char} {start stop : Nat}
      (hfirst : PaddedClock first start) (hsecond : PaddedClock second stop)
      (start_le : start ≤ stop) :
      RangeText (first ++ '-' :: second) ⟨start, stop⟩

-- ==================================================== characters

variable {s : List Char} {minute : Nat} {range : TimeRange}

/-- The characters of a clock. -/
def IsClockChar (c : Char) : Prop := c = ':' ∨ c = '+' ∨ c.isDigit = true

theorem isBlank_of_isClockChar {c : Char} (h : IsClockChar c) :
    Text.isBlank c = false := by
  rcases h with rfl | rfl | hdigit
  · rfl
  · rfl
  · have hrange : 48 ≤ c.toNat ∧ c.toNat ≤ 57 := by
      simpa [Char.isDigit, UInt32.le_iff_toNat_le] using hdigit
    unfold Text.isBlank
    simp only [Bool.or_eq_false_iff, Bool.and_eq_false_iff, beq_eq_false_iff_ne,
      decide_eq_false_iff_not]
    omega

theorem ClockText.ne_nil (h : ClockText s minute) : s ≠ [] := by
  obtain ⟨hhour, -, -, -, -⟩ := h
  exact List.append_ne_nil_of_left_ne_nil hhour.ne_nil _

theorem ClockText.isClockChar (h : ClockText s minute) :
    ∀ c ∈ s, IsClockChar c := by
  obtain ⟨hhour, hminute, -, -, -⟩ := h
  intro c hc
  rw [List.mem_append, List.mem_cons] at hc
  rcases hc with hc | rfl | hc
  · exact Or.inr (hhour.eq_plus_or_isDigit c hc)
  · exact Or.inl rfl
  · exact Or.inr (hminute.eq_plus_or_isDigit c hc)

/-- A clock has no dash, and neither have the blanks around it. -/
theorem PaddedClock.dash_not_mem (h : PaddedClock s minute) : '-' ∉ s := by
  obtain ⟨hlead, hclock, htail⟩ := h
  intro hdash
  rw [List.mem_append, List.mem_append] at hdash
  rcases hdash with (hdash | hdash) | hdash
  · cases hlead '-' hdash
  · rcases hclock.isClockChar '-' hdash with h | h | h <;> cases h
  · cases htail '-' hdash

-- ==================================================== clocks

/-- No clock shows a minute after the end of the day. -/
theorem ClockText.le (h : ClockText s minute) : minute ≤ 1440 := by
  obtain ⟨-, -, hminute, hhour, hmidnight⟩ := h
  omega

/-- The clocks are the texts from which a minute of the day is read. -/
theorem readClock?_iff : readClock? s = some minute ↔ ClockText s minute := by
  unfold readClock? readWord?
  simp only [Option.bind_eq_bind, Option.bind_eq_some_iff, Prod.exists,
    Text.splitFirst?_eq_some_iff, Decimal.readUnsigned?_eq_some_iff,
    Option.ite_none_left_eq_some, Option.some.injEq]
  constructor
  · rintro ⟨hourText, minuteText, ⟨rfl, -⟩, hour, ⟨hhour, -⟩, minute,
      ⟨hminute, -⟩, hvalid, rfl⟩
    have hclock : ClockText _ (60 * hour + minute) :=
      .mk hhour hminute (by omega) (by omega) (by omega)
    rwa [Nat.mul_comm] at hclock
  · rintro ⟨hhour, hminute, hminute_le, hhour_le, hmidnight⟩
    refine ⟨_, _, ⟨rfl, fun hcolon => ?_⟩, _, ⟨hhour, by omega⟩, _,
      ⟨hminute, by omega⟩, by omega, by omega⟩
    rcases hhour.eq_plus_or_isDigit ':' hcolon with h | h <;> cases h

/-- Blanks around a clock do not matter. -/
theorem readClock?_trim_iff :
    readClock? (Text.trim s) = some minute ↔ PaddedClock s minute := by
  rw [readClock?_iff]
  constructor
  · intro hclock
    obtain ⟨lead, tail, hs, hlead, htail⟩ := Text.exists_eq_append_trim s
    rw [hs]
    exact .mk hlead hclock htail
  · rintro ⟨hlead, hclock, htail⟩
    have hblank : ∀ c ∈ _, Text.isBlank c = false :=
      fun c hc => isBlank_of_isClockChar (hclock.isClockChar c hc)
    have hne : _ ≠ [] := hclock.ne_nil
    rw [Text.trim_append_of_blank hlead hne
      (fun c hc => hblank c (List.mem_of_head? hc))
      (fun c hc => hblank c (List.mem_of_getLast? hc)) htail]
    exact hclock

-- ==================================================== 16 bits

/-- The minute of the day that a clock shows, computed in words of 16 bits that
wrap around. -/
def readClockWord? (s : List Char) : Option UInt16 := do
  let (hourText, minuteText) ← Text.splitFirst? ':' s
  let hours ← (readWord? hourText).map Nat.toUInt16
  let minutes ← (readWord? minuteText).map Nat.toUInt16
  if minutes ≥ 60 ∨ hours > 24 ∨ (hours = 24 ∧ minutes ≠ 0) then none
  else some (hours * 60 + minutes)

/-- What is read as a number fits into a word. -/
private theorem toNat_toUInt16_of_readWord? {text : List Char} {n : Nat}
    (h : readWord? text = some n) : n.toUInt16.toNat = n := by
  have hmax : n ≤ 65535 := (Decimal.readUnsigned?_eq_some_iff.mp h).2
  exact UInt16.toNat_ofNat_of_lt' (by simp [UInt16.size]; omega)

/-- What is computed in words is what is computed in numbers. -/
theorem readClockWord?_eq (s : List Char) :
    (readClockWord? s).map UInt16.toNat = readClock? s := by
  unfold readClockWord? readClock?
  cases hsplit : Text.splitFirst? ':' s with
  | none => rfl
  | some parts =>
  obtain ⟨hourText, minuteText⟩ := parts
  cases hhour : readWord? hourText with
  | none => simp [hhour]
  | some hour =>
  cases hminute : readWord? minuteText with
  | none => simp [hhour, hminute]
  | some minute =>
  have hhours := toNat_toUInt16_of_readWord? hhour
  have hminutes := toNat_toUInt16_of_readWord? hminute
  simp only [Option.bind_eq_bind, Option.bind_some, hhour, hminute,
    Option.map_some]
  generalize hour.toUInt16 = hours at hhours ⊢
  generalize minute.toUInt16 = minutes at hminutes ⊢
  subst hhours hminutes
  have hrefused : (minutes ≥ 60 ∨ hours > 24 ∨ (hours = 24 ∧ minutes ≠ 0))
      ↔ minutes.toNat ≥ 60 ∨ hours.toNat > 24
        ∨ (hours.toNat = 24 ∧ minutes.toNat ≠ 0) := by
    simp only [ge_iff_le, gt_iff_lt, UInt16.le_iff_toNat_le,
      UInt16.lt_iff_toNat_lt, ← UInt16.toNat_inj, ne_eq]
    rfl
  simp only [hrefused]
  split
  case isTrue => rfl
  case isFalse hvalid =>
    rw [Option.map_some, UInt16.toNat_add, UInt16.toNat_mul]
    congr 1
    show (hours.toNat * 60 % 65536 + minutes.toNat) % 65536 = _
    omega

-- ==================================================== ranges

/-- The ranges are the texts from which a range is read. -/
theorem read?_iff : read? s = some range ↔ RangeText s range := by
  unfold read?
  simp only [Option.bind_eq_bind, Option.bind_eq_some_iff, Prod.exists,
    Text.splitFirst?_eq_some_iff, readClock?_trim_iff,
    Option.ite_none_right_eq_some, Option.some.injEq]
  constructor
  · rintro ⟨first, second, ⟨rfl, -⟩, start, hfirst, stop, hsecond, hle, rfl⟩
    exact .mk hfirst hsecond hle
  · rintro ⟨hfirst, hsecond, hle⟩
    exact ⟨_, _, ⟨rfl, hfirst.dash_not_mem⟩, _, hfirst, _, hsecond, hle, rfl⟩

/-- A range lies within a day. -/
theorem RangeText.bounds (h : RangeText s range) :
    range.start ≤ range.stop ∧ range.stop ≤ 1440 := by
  obtain ⟨-, ⟨-, hstop, -⟩, hle⟩ := h
  exact ⟨hle, hstop.le⟩

/-- Which texts are time ranges. A text is read exactly if it is one by the
grammar, and as the minutes that its clocks show, which are in order and within
a day. Every other text is refused with an error that names all of it. Whatever
stands in the place of a clock, words of 16 bits are enough to compute what it
shows. -/
theorem parse_exact (text : String) :
    (∀ range, parse text = .ok range ↔ RangeText text.toList range)
      ∧ (∀ range, parse text = .ok range →
        range.start ≤ range.stop ∧ range.stop ≤ 1440)
      ∧ ((∀ range, ¬ RangeText text.toList range) →
        parse text = .error (.invalidRange text))
      ∧ (EngineError.config (.period (.invalidRange text))).message
        = s!"Configuration error: invalid time range '{text}'"
      ∧ ∀ s, (readClockWord? s).map UInt16.toNat = readClock? s := by
  have hparse : ∀ range, parse text = .ok range
      ↔ RangeText text.toList range := by
    intro range
    rw [← read?_iff]
    unfold parse
    cases read? text.toList <;> simp
  refine ⟨hparse, fun range h => ((hparse range).mp h).bounds,
    fun hnone => ?_, rfl, readClockWord?_eq⟩
  unfold parse
  cases hread : read? text.toList with
  | none => rfl
  | some range => exact absurd (read?_iff.mp hread) (hnone range)

/-- Plus signs, leading zeros and blanks beyond ASCII are fine. -/
example : parse "+8:030\u2003- 0024:00" = .ok ⟨510, 1440⟩ := by decide +kernel

end HostWatch.TimeRange
