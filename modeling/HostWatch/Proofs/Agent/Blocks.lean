/-
Blocks about other hosts leave no trace.

An agent passes on what it has been told about other hosts, in blocks of lines
that are not its own. What such a block holds is up to the other host, so it
must not be able to bring in a section, to add a row, to make one older, or to
keep the lines behind the block from being read.

# Inside

A block is entered with no section under way, and then every line leaves the
reading as it is (`Reading.line_inside`): one that begins a section is passed
over, and one that begins a block about a third host ends nothing, for there
is nothing to end, and stays within a block. Only the line that ends a block is
ruled out. So all that a whole block does is to complete the section that it
interrupts (`Reading.foldl_blockLines`).

# Behind it

The line that follows would have completed that section as well, if it begins
one or begins another block (`Reading.line_of_opens`), and with the same rows,
as none was added in between. It cannot tell the two readings apart, and no
line after it can (`parse_without_block`).
-/
import HostWatch.Proofs.Agent.Splitting

namespace HostWatch.AgentOutput

-- ==================================================== blocks

/-- The lines of a block about another host, with the one that ends it. -/
def blockLines (host : String) (lines : List String) : List String :=
  ("<<<<" ++ host ++ ">>>>") :: (lines ++ ["<<<<>>>>"])

/-- The text of such a block. -/
def block (host : String) (lines : List String) : String :=
  String.join ((blockLines host lines).map fun line => line ++ "\n")

/-- A line can be put in a block: it is one line, and does not end the block. -/
structure FitsBlock (line : String) : Prop where
  newline_notMem : '\n' ∉ line.toList
  not_end : ¬ IsPiggyback [] line.toList

private theorem fitsBlock_iff {line : String} :
    FitsBlock line
      ↔ '\n' ∉ line.toList ∧ lineKind line.toList ≠ .piggyback [] := by
  rw [Ne, lineKind_eq_piggyback_iff]
  exact ⟨fun h => ⟨h.newline_notMem, h.not_end⟩, fun h => ⟨h.1, h.2⟩⟩

instance (line : String) : Decidable (FitsBlock line) :=
  decidable_of_iff _ fitsBlock_iff.symm

private theorem lineKind_begin (host : String) :
    lineKind ("<<<<" ++ host ++ ">>>>").toList = .piggyback host.toList := by
  rw [lineKind_eq_piggyback_iff]
  refine ⟨0, ?_⟩
  simp only [String.toList_append, List.replicate_zero, List.append_nil]

private theorem newline_notMem_blockLines {host : String} {lines : List String}
    (hhost : '\n' ∉ host.toList) (hlines : ∀ line ∈ lines, FitsBlock line) :
    ∀ line ∈ blockLines host lines, '\n' ∉ line.toList := by
  intro line hline
  unfold blockLines at hline
  rcases List.mem_cons.mp hline with rfl | hline
  · simp [hhost]
  · rcases List.mem_append.mp hline with hline | hline
    · exact (hlines line hline).newline_notMem
    · rw [List.mem_singleton.mp hline]
      decide

-- ==================================================== reading a block

namespace Reading

variable {r : Reading}

/-- A reading with the section under way completed, and none begun. -/
def completed (r : Reading) : Reading := { done := r.sections }

/-- In a block no line has any effect but the one that ends it. -/
private theorem line_inside {text : List Char} (hcurrent : r.current = none)
    (helsewhere : r.elsewhere = true) (h : ¬ IsPiggyback [] text) :
    r.line text = r := by
  cases hkind : lineKind text with
  | piggyback host =>
      -- the only line with an effect of its own: it would complete a section
      have hsections : r.sections = r.done := by
        unfold sections
        rw [hcurrent]
      have hhost : host.isEmpty = false := by
        rw [List.isEmpty_eq_false_iff]
        rintro rfl
        exact h (lineKind_eq_piggyback_iff.mp hkind)
      rw [line_of_piggyback hkind, hsections, hhost]
      cases r
      cases hcurrent
      cases helsewhere
      rfl
  | header inner | blank | data line =>
      exact line_of_elsewhere helsewhere (by simp [hkind])

private theorem foldl_inside {lines : List String}
    (hlines : ∀ line ∈ lines, FitsBlock line) (hcurrent : r.current = none)
    (helsewhere : r.elsewhere = true) :
    lines.foldl (fun r line => r.line line.toList) r = r := by
  induction lines with
  | nil => rfl
  | cons line lines ih =>
      have hline := hlines line (List.mem_cons_self ..)
      rw [List.foldl_cons, line_inside hcurrent helsewhere hline.not_end]
      exact ih fun line hline => hlines line (List.mem_cons_of_mem _ hline)

/-- A block completes the section that is under way, and does nothing else. -/
theorem foldl_blockLines {host : String} {lines : List String}
    (hhost : host ≠ "") (hlines : ∀ line ∈ lines, FitsBlock line) :
    (blockLines host lines).foldl (fun r line => r.line line.toList) r
      = r.completed := by
  have hnamed : host.toList.isEmpty = false := by
    rw [List.isEmpty_eq_false_iff]
    simpa using hhost
  have hend : lineKind "<<<<>>>>".toList = .piggyback [] := by decide
  unfold blockLines
  rw [List.foldl_cons, line_of_piggyback (lineKind_begin host), hnamed,
    List.foldl_append, foldl_inside hlines rfl rfl]
  show Reading.line _ "<<<<>>>>".toList = _
  rw [line_of_piggyback hend]
  rfl

/-- Lines that may follow complete the section themselves. -/
private theorem foldl_completed {texts : List (List Char)}
    (helsewhere : r.elsewhere = false)
    (hopens : ∀ line ∈ texts.head?, ∃ inner, IsHeader inner line) :
    (texts.foldl line r.completed).sections
      = (texts.foldl line r).sections := by
  cases texts with
  | nil => rfl
  | cons first others =>
      obtain ⟨inner, hheader⟩ := hopens first rfl
      rw [List.foldl_cons, List.foldl_cons, line_of_opens rfl hheader,
        line_of_opens helsewhere hheader]
      rfl

end Reading

-- ==================================================== the main statement

/-- A block about another host leaves no trace. Whatever its lines are, headers
of sections and of blocks included, and whatever host it is about: put where a
text may be cut, it changes nothing about what is read. -/
theorem parse_without_block {before after host : String} {lines : List String}
    (hbefore : Closed before) (hafter : Opens after) (hhost : host ≠ "")
    (hbreak : '\n' ∉ host.toList) (hlines : ∀ line ∈ lines, FitsBlock line) :
    parse (before ++ block host lines ++ after) = parse (before ++ after) := by
  have helsewhere := elsewhere_of_closed hbefore
  unfold parse
  rw [String.append_assoc, String.toList_append, String.toList_append,
    String.toList_append, Text.lines_append hbefore.whole,
    Text.lines_append hbefore.whole, List.foldl_append, List.foldl_append]
  -- of the text before, nothing but the reading that it leads to counts
  generalize (Text.lines before.toList).foldl Reading.line {} = r at helsewhere ⊢
  unfold block
  rw [Reading.foldl_lines_append (newline_notMem_blockLines hbreak hlines),
    Reading.foldl_blockLines hhost hlines]
  exact Reading.foldl_completed helsewhere hafter.isHeader

/-- A text with a section under way, behind a block that has been ended. -/
def interruptedText : String :=
  "<<<mem>>>\n1\n<<<<db>>>>\n<<<mem>>>\n9\n<<<<>>>>\r\n<<<up:cached(50,60)>>>\n3\n"

def resumedText : String := "<<<up>>>\r\n4\n"

/-- Lines that try to get out of a block: they begin sections and a block about
a third host, make one older, and look like the end of the block. -/
def leakingLines : List String :=
  ["5", "<<<up:cached(1,1)>>>", "6", "<<<<web>>>>\r", "<<<>>>", "", "7",
    "<<<<>>>> ", " <<<<>>>>", "<<<< >>>>", "<<<<>>>", "<<<<>>>>\r>"]

/-- They do not get out, and the section has the rows and the age that it would
have had. -/
theorem parse_without_block_leaking :
    Closed interruptedText ∧ Opens resumedText
      ∧ (∀ line ∈ leakingLines, FitsBlock line)
      ∧ parse (interruptedText ++ block "db" leakingLines ++ resumedText)
        = parse (interruptedText ++ resumedText)
      ∧ (parse (interruptedText ++ resumedText)).sections.get? "up"
        = some [["3"], ["4"]]
      ∧ (parse (interruptedText ++ resumedText)).cacheInfo.get? "up"
        = some ⟨50, 60⟩ := by
  have hbefore : Closed interruptedText := by decide +kernel
  have hafter : Opens resumedText := by decide +kernel
  have hlines : ∀ line ∈ leakingLines, FitsBlock line := by decide +kernel
  exact ⟨hbefore, hafter, hlines,
    parse_without_block hbefore hafter (by decide) (by decide) hlines,
    by decide +kernel, by decide +kernel⟩

end HostWatch.AgentOutput
