/-
The lines of an agent's text, and what they do to a reading of it.

What a line is depends on how it is framed once the carriage returns at its
end are gone. `Framed` says that without dropping anything: the frame and
what stands in it, and then some carriage returns. The kinds of lines are
read off it (`lineKind_eq_piggyback_iff`, `lineKind_eq_header_iff`,
`lineKind_eq_data_iff`), and since nothing but the kind of a line counts
(`Reading.line_congr`), the way in which a line was ended does not. So lines
that are written to a text are read from it one after the other
(`Reading.foldl_lines_append`).
-/
import HostWatch.Agent.Output
import HostWatch.Proofs.Text.Lines

namespace HostWatch.AgentOutput

-- ==================================================== the forms of lines

/-- A line is what stands between a lead and a tail, framed by the two, with
nothing but carriage returns behind. -/
def Framed (lead tail : String) (inner line : List Char) : Prop :=
  ∃ n, line = lead.toList ++ inner ++ tail.toList ++ List.replicate n '\r'

/-- A line begins a block about another host, or ends one if it names none. -/
def IsPiggyback (host line : List Char) : Prop := Framed "<<<<" ">>>>" host line

/-- A line has the form of one that begins a section. -/
def IsHeader (inner line : List Char) : Prop := Framed "<<<" ">>>" inner line

/-- A line about another host has the form of one that begins a section, too. -/
theorem IsPiggyback.isHeader {host line : List Char}
    (h : IsPiggyback host line) : IsHeader ('<' :: host ++ ['>']) line := by
  obtain ⟨n, rfl⟩ := h
  refine ⟨n, ?_⟩
  show '<' :: '<' :: '<' :: '<' :: (host ++ _) ++ _ = _
  simp

/-- The frame of a line is found once the carriage returns are dropped. -/
private theorem unframe?_eq_some_iff {lead tail : String}
    {inner line : List Char} (htail : tail.toList.getLast? = some '>') :
    Text.unframe? lead.toList tail.toList
        (Text.dropEndWhile (· == '\r') line) = some inner
      ↔ Framed lead tail inner line := by
  rw [Text.unframe?_eq_some_iff, Text.dropEndWhile_eq_iff]
  · rfl
  · rw [List.getLast?_append, htail, Option.some_or]
    decide

/-- The form of a line that begins a section says what is framed. -/
theorem IsHeader.unique {inner inner' line : List Char}
    (h : IsHeader inner line) (h' : IsHeader inner' line) : inner = inner' := by
  unfold IsHeader at h h'
  rw [← unframe?_eq_some_iff (by decide)] at h h'
  exact Option.some.inj (h.symm.trans h')

/-- A line is about another host exactly if it is framed so. -/
theorem lineKind_eq_piggyback_iff {host line : List Char} :
    lineKind line = .piggyback host ↔ IsPiggyback host line := by
  unfold IsPiggyback
  rw [← unframe?_eq_some_iff (by decide)]
  unfold lineKind
  simp only
  split
  case h_1 found hfound =>
    rw [hfound, LineKind.piggyback.injEq, Option.some.injEq]
  case h_2 hnone =>
    rw [hnone]
    refine ⟨fun h => ?_, fun h => by cases h⟩
    split at h
    · cases h
    · split at h <;> cases h

/-- A line begins a section exactly if it is framed so, and is not about
another host. -/
theorem lineKind_eq_header_iff {inner line : List Char} :
    lineKind line = .header inner
      ↔ IsHeader inner line ∧ ∀ host, ¬ IsPiggyback host line := by
  have hpiggyback : ∀ host, Text.unframe? "<<<<".toList ">>>>".toList
      (Text.dropEndWhile (· == '\r') line) = some host
        ↔ IsPiggyback host line :=
    fun host => unframe?_eq_some_iff (by decide)
  unfold IsHeader
  rw [← unframe?_eq_some_iff (by decide)]
  unfold lineKind
  simp only
  split
  case h_1 host hhost =>
    refine ⟨fun h => (by cases h), fun h => ?_⟩
    exact absurd ((hpiggyback host).mp hhost) (h.2 host)
  case h_2 hnone =>
    have hother : ∀ host, ¬ IsPiggyback host line := by
      intro host hhost
      rw [← hpiggyback, hnone] at hhost
      cases hhost
    split
    case h_1 found hfound =>
      rw [hfound, LineKind.header.injEq, Option.some.injEq]
      exact ⟨fun h => ⟨h, hother⟩, And.left⟩
    case h_2 hnone' =>
      rw [hnone']
      refine ⟨fun h => ?_, fun h => by cases h.1⟩
      split at h <;> cases h

/-- A line with the form of one that begins a section does so, unless it is
about another host. -/
theorem lineKind_of_isHeader {inner line : List Char}
    (h : IsHeader inner line) :
    lineKind line = .header inner
      ∨ ∃ host, lineKind line = .piggyback host := by
  by_cases hhost : ∃ host, IsPiggyback host line
  · obtain ⟨host, hhost⟩ := hhost
    exact Or.inr ⟨host, lineKind_eq_piggyback_iff.mpr hhost⟩
  · rw [not_exists] at hhost
    exact Or.inl (lineKind_eq_header_iff.mpr ⟨h, hhost⟩)

/-- A line is data exactly if it has any other form, and anything but blanks. -/
theorem lineKind_eq_data_iff {line : List Char} :
    lineKind line = .data (Text.dropEndWhile (· == '\r') line)
      ↔ (∀ inner, ¬ IsHeader inner line) ∧ Text.allBlank line = false := by
  have hkind : (∃ host, lineKind line = .piggyback host)
      ∨ (∃ inner, lineKind line = .header inner)
      ∨ lineKind line = if Text.allBlank line then .blank
          else .data (Text.dropEndWhile (· == '\r') line) := by
    unfold lineKind
    simp only
    rw [Text.allBlank_dropEndWhile]
    split
    · exact Or.inl ⟨_, rfl⟩
    · split
      · exact Or.inr (Or.inl ⟨_, rfl⟩)
      · exact Or.inr (Or.inr rfl)
  constructor
  · intro hdata
    refine ⟨fun inner hinner => ?_, ?_⟩
    · rcases lineKind_of_isHeader hinner with h | ⟨host, h⟩
      · rw [hdata] at h
        cases h
      · rw [hdata] at h
        cases h
    · rw [hdata] at hkind
      rcases hkind with ⟨host, h⟩ | ⟨inner, h⟩ | h
      · cases h
      · cases h
      · rw [Bool.eq_false_iff]
        intro hblank
        rw [if_pos hblank] at h
        cases h
  · rintro ⟨hheader, hblank⟩
    rcases hkind with ⟨host, h⟩ | ⟨inner, h⟩ | h
    · exact absurd (lineKind_eq_piggyback_iff.mp h).isHeader (hheader _)
    · exact absurd (lineKind_eq_header_iff.mp h).1 (hheader inner)
    · rw [h, hblank]
      rfl

/-- A line that has been ended is of the kind that it is of itself. -/
theorem lineKind_stripLineEnd (line : List Char) :
    lineKind (Text.stripLineEnd (line ++ ['\n'])) = lineKind line := by
  unfold lineKind
  rw [Text.dropEndWhile_stripLineEnd]

-- ==================================================== one line of a reading

namespace Reading

variable {r : Reading} {text : List Char}

/-- Nothing but the kind of a line counts. -/
theorem line_congr (r : Reading) {text' : List Char}
    (h : lineKind text = lineKind text') : r.line text = r.line text' := by
  unfold line
  rw [h]

/-- A line about another host ends the section under way. -/
theorem line_of_piggyback {host : List Char}
    (h : lineKind text = .piggyback host) :
    r.line text
      = { done := r.sections, current := none
          elsewhere := !host.isEmpty } := by
  unfold line
  rw [h]

/-- A line that begins a section ends the one under way. -/
theorem line_of_header {inner : List Char} (helsewhere : r.elsewhere = false)
    (h : lineKind text = .header inner) :
    r.line text
      = { done := r.sections, current := (Header.read? inner).map (·, [])
          elsewhere := false } := by
  unfold line
  rw [h, helsewhere]
  rfl

/-- A line of data becomes a row of the section under way. -/
theorem line_of_data {line : List Char} (helsewhere : r.elsewhere = false)
    (h : lineKind text = .data line) :
    r.line text
      = { r with
          current := r.current.map fun (header, rows) =>
            (header, rows ++ [cells header.separator line]) } := by
  unfold Reading.line
  rw [h, helsewhere]
  rfl

/-- A line of blanks is passed over. -/
theorem line_of_blank (h : lineKind text = .blank) : r.line text = r := by
  unfold line
  rw [h]
  simp only [ite_self]

/-- In a block about another host every line is passed over that does not end
it or begin another one. -/
theorem line_of_elsewhere (helsewhere : r.elsewhere = true)
    (h : ∀ host, lineKind text ≠ .piggyback host) : r.line text = r := by
  unfold line
  cases hkind : lineKind text with
  | piggyback host => exact absurd hkind (h host)
  | header inner | blank | data line => exact if_pos helsewhere

/-- Of all lines only those about another host change whether the lines are
about one. -/
theorem elsewhere_line (h : ∀ host, ¬ IsPiggyback host text) :
    (r.line text).elsewhere = r.elsewhere := by
  have hkind : ∀ host, lineKind text ≠ .piggyback host :=
    fun host hhost => h host (lineKind_eq_piggyback_iff.mp hhost)
  cases helsewhere : r.elsewhere with
  | true => rw [line_of_elsewhere helsewhere hkind, helsewhere]
  | false =>
      cases hkind' : lineKind text with
      | piggyback host => exact absurd hkind' (hkind host)
      | header inner => rw [line_of_header helsewhere hkind']
      | blank => rw [line_of_blank hkind', helsewhere]
      | data line => rw [line_of_data helsewhere hkind']; exact helsewhere

-- ==================================================== written lines

/-- Lines that are written one after the other are read one after the other,
and what stands behind them after that. -/
theorem foldl_lines_append {texts : List String}
    (h : ∀ text ∈ texts, '\n' ∉ text.toList) (rest : List Char) :
    ∀ r : Reading,
      (Text.lines
          ((String.join (texts.map fun text => text ++ "\n")).toList
            ++ rest)).foldl line r
        = (Text.lines rest).foldl line
            (texts.foldl (fun r text => r.line text.toList) r) := by
  induction texts with
  | nil => intro r; rfl
  | cons text texts ih =>
      intro r
      have htexts := ih fun text ht => h text (List.mem_cons_of_mem _ ht)
      rw [List.map_cons, String.join_cons, String.toList_append,
        String.toList_append, List.append_assoc]
      show (Text.lines ((text.toList ++ ['\n']) ++ _)).foldl line r = _
      rw [Text.lines_append_line (h text (List.mem_cons_self ..)),
        List.foldl_cons, htexts, List.foldl_cons,
        r.line_congr (lineKind_stripLineEnd text.toList)]

/-- Lines that are written one after the other are read one after the other. -/
theorem foldl_lines_join {texts : List String}
    (h : ∀ text ∈ texts, '\n' ∉ text.toList) (r : Reading) :
    (Text.lines
        (String.join (texts.map fun text => text ++ "\n")).toList).foldl line r
      = texts.foldl (fun r text => r.line text.toList) r := by
  have hread := foldl_lines_append h [] r
  rwa [List.append_nil] at hread

end Reading

end HostWatch.AgentOutput
