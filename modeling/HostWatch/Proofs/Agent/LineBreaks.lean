/-
The sections of an agent's text, and the way in which its lines are ended.

Carriage returns are dropped twice: one with the line feed that it stands
before, and then all that are left at the end of the line. The first step
sees only texts that are cut into lines already, and cutting looks for line
feeds alone; so a carriage return that is put before every line feed goes
to the end of the piece that it ends (`lineBlocks_withReturns`), whatever
stood there before. After the second step nothing is left of it, and a
reading looks at a line only after that step (`parse_congr`). Headers,
blank lines and cells need no cases of their own: all of them are found in
what is left of a line.
-/
import HostWatch.Proofs.Agent.Lines

namespace HostWatch

namespace Text

-- ==================================================== pieces of a text

/-- A text with a carriage return before every line feed. -/
def withReturns (s : List Char) : List Char :=
  s.flatMap fun c => if c = '\n' then ['\r', '\n'] else [c]

theorem withReturns_append (s t : List Char) :
    withReturns (s ++ t) = withReturns s ++ withReturns t :=
  List.flatMap_append

theorem withReturns_cons_of_ne {c : Char} (hc : c ≠ '\n') (s : List Char) :
    withReturns (c :: s) = c :: withReturns s := by
  simp [withReturns, hc]

theorem withReturns_of_not_mem {s : List Char} (h : '\n' ∉ s) :
    withReturns s = s := by
  induction s with
  | nil => rfl
  | cons c s ih =>
      rw [List.mem_cons, not_or] at h
      rw [withReturns_cons_of_ne (Ne.symm h.1), ih h.2]

/-- A text is cut at the same places with and without the carriage returns. -/
theorem lineBlocks_withReturns (s : List Char) :
    lineBlocks (withReturns s) = (lineBlocks s).map withReturns := by
  induction s with
  | nil => rfl
  | cons c s ih =>
      by_cases hc : c = '\n'
      · subst hc
        have hreturn : withReturns ('\n' :: s)
            = '\r' :: '\n' :: withReturns s := by simp [withReturns]
        have halone : withReturns ['\n'] = ['\r', '\n'] := rfl
        rw [hreturn]
        simp [lineBlocks, ih, halone]
      · rw [withReturns_cons_of_ne hc]
        simp only [lineBlocks, if_neg hc, ih]
        cases lineBlocks s with
        | nil => simp [withReturns, hc]
        | cons p ps => simp [withReturns_cons_of_ne hc]

/-- A piece of a text is a line, which is ended unless it is the last one. -/
theorem exists_line_of_mem_lineBlocks {s block : List Char}
    (h : block ∈ lineBlocks s) :
    ∃ line, '\n' ∉ line ∧ (block = line ++ ['\n'] ∨ block = line) := by
  induction s generalizing block with
  | nil => cases h
  | cons c s ih =>
      unfold lineBlocks at h
      by_cases hc : c = '\n'
      · rw [if_pos hc] at h
        rcases List.mem_cons.mp h with rfl | h
        · exact ⟨[], List.not_mem_nil, Or.inl (by rw [hc]; rfl)⟩
        · exact ih h
      · rw [if_neg hc] at h
        cases hblocks : lineBlocks s with
        | nil =>
            rw [hblocks] at h
            have hblock : block = [c] := by simpa using h
            exact ⟨[c], by simpa using Ne.symm hc, Or.inr hblock⟩
        | cons p ps =>
            rw [hblocks] at h ih
            rcases List.mem_cons.mp h with rfl | h
            · -- the first piece goes on with one more character
              obtain ⟨line, hline, hp⟩ := ih (List.mem_cons_self ..)
              refine ⟨c :: line, ?_, by simpa using hp⟩
              simpa using ⟨Ne.symm hc, hline⟩
            · exact ih (List.mem_cons_of_mem _ h)

-- ==================================================== what is left of a line

/-- Without the carriage returns at its end, a line is what it is of itself:
the one that was put there goes, and so do those that stood there before. -/
theorem dropEndWhile_stripLineEnd_withReturns {s block : List Char}
    (h : block ∈ lineBlocks s) :
    dropEndWhile (· == '\r') (stripLineEnd (withReturns block))
      = dropEndWhile (· == '\r') (stripLineEnd block) := by
  obtain ⟨line, hline, rfl | rfl⟩ := exists_line_of_mem_lineBlocks h
  · have hended : withReturns (line ++ ['\n'])
        = (line ++ List.replicate 1 '\r') ++ ['\n'] := by
      rw [withReturns_append, withReturns_of_not_mem hline, List.append_assoc]
      rfl
    rw [hended, dropEndWhile_stripLineEnd, dropEndWhile_stripLineEnd,
      dropEndWhile_append]
  · rw [withReturns_of_not_mem hline]

/-- So the lines of the two texts differ in carriage returns at their ends
only. -/
theorem lines_withReturns (s : List Char) :
    (lines (withReturns s)).map (dropEndWhile (· == '\r'))
      = (lines s).map (dropEndWhile (· == '\r')) := by
  unfold lines
  rw [lineBlocks_withReturns]
  simp only [List.map_map]
  exact List.map_congr_left fun block hblock =>
    dropEndWhile_stripLineEnd_withReturns hblock

end Text

namespace AgentOutput

-- ==================================================== readings

/-- A line is read like what is left of it without the carriage returns at its
end. -/
theorem Reading.line_dropEndWhile (r : Reading) (text : List Char) :
    r.line (Text.dropEndWhile (· == '\r') text) = r.line text := by
  apply r.line_congr
  obtain ⟨n, hn⟩ := Text.dropEndWhile_append_replicate '\r' text
  have htwice : Text.dropEndWhile (· == '\r')
        (Text.dropEndWhile (· == '\r') text)
      = Text.dropEndWhile (· == '\r') text := by
    conv => rhs; rw [hn, Text.dropEndWhile_append]
  unfold lineKind
  rw [htwice]

/-- Texts have the same sections if their lines differ in carriage returns at
their ends only. -/
theorem parse_congr {text text' : String}
    (h : (Text.lines text.toList).map (Text.dropEndWhile (· == '\r'))
      = (Text.lines text'.toList).map (Text.dropEndWhile (· == '\r'))) :
    parse text = parse text' := by
  have hread : ∀ (lines : List (List Char)) (r : Reading),
      (lines.map (Text.dropEndWhile (· == '\r'))).foldl Reading.line r
        = lines.foldl Reading.line r := by
    intro lines r
    rw [List.foldl_map]
    simp only [Reading.line_dropEndWhile]
  unfold parse
  rw [← hread, h, hread]

-- ==================================================== the main statement

/-- The way in which lines are ended does not matter. An agent's text has the
same sections, with the same rows, cells and ages, as the text with a carriage
return before every line feed: for every text, whatever separators its headers
set, wherever it has carriage returns of its own, and whether or not its last
line is ended. -/
theorem parse_withReturns (text : String) :
    parse (String.ofList (Text.withReturns text.toList)) = parse text := by
  apply parse_congr
  rw [String.toList_ofList]
  exact Text.lines_withReturns _

-- carriage returns within a line stay, and may separate its cells
example : (parse "<<<a:sep(13)>>>\r\n1\r2\r\r\n").sections.get? "a"
    = some [["1", "2"]] := by decide +kernel

end AgentOutput

end HostWatch
