/-
What the result of a host says of a section that cannot be parsed.

A provider keeps one text for each such section: a headline that names the
section, a dash between blanks, and what was wrong. The result of the host
takes the headline out of the text again, as what stands in front of the first
dash between blanks. What was wrong may say anything, since it comes later,
and the words of the headline have no dash. That leaves the name, which an
agent may write as it likes. A dash between blanks in it, the blanks around
the name included, is found before the one that the provider has put there
(`summary_of_dash`), and without one the headline comes out in full
(`summary_of_no_dash`).
-/
import HostWatch.HostReport
import HostWatch.Proofs.Section.Resolution
import HostWatch.Proofs.Text.Search

namespace HostWatch

-- ==================================================== dashes in a headline

/-- What is said of a section that cannot be parsed, apart from what was
wrong. -/
def failureHeadline (name : SectionName) : String :=
  s!"Parsing of section {name} failed"

/-- A dash stands between blanks in a section's name, or would do so with a
blank in front of the name and one behind it. -/
def DashInName (name : SectionName) : Prop :=
  " - ".toList <:+: ' ' :: name.toList ++ [' ']

instance (name : SectionName) : Decidable (DashInName name) :=
  inferInstanceAs (Decidable (_ <:+: _))

/-- The name stands in its headline with blanks around it. -/
theorem toList_failureHeadline (name : SectionName) :
    (failureHeadline name).toList
      = "Parsing of section".toList ++ (' ' :: name.toList ++ [' '])
        ++ "failed".toList := by
  show ("Parsing of section " ++ name ++ " failed").toList = _
  simp

/-- The first words of a headline bring no dash. -/
private theorem dash_of_words_append {rest : List Char}
    (h : " - ".toList <:+: "Parsing of section".toList ++ rest) :
    " - ".toList <:+: rest := by
  simpa [List.infix_cons_iff] using h

/-- Nor does the last one, with what it shares with the dash behind it. -/
private theorem dash_of_append_failed {front : List Char}
    (h : " - ".toList <:+: front ++ "failed -".toList) :
    " - ".toList <:+: front := by
  rw [← List.reverse_infix] at h ⊢
  simpa [List.infix_cons_iff] using h

/-- A text does not go on with a dash behind its end. -/
private theorem ne_append_dash (s lost : String) : s ≠ s ++ " - " ++ lost := by
  intro h
  have hlength := congrArg String.length h
  have hthree : " - ".length = 3 := by decide
  rw [String.length_append, String.length_append] at hlength
  omega

-- ==================================================== the headline

namespace HostReport

variable {state : State} {name : SectionName} {message : String}

/-- An error is a headline, a dash between blanks, and what was wrong. -/
theorem toList_parsingError (name : SectionName) (message : String) :
    (SectionProvider.parsingError name message).toList
      = (failureHeadline name).toList ++ " - ".toList ++ message.toList := by
  show ("Parsing of section " ++ name ++ " failed - " ++ message).toList = _
  rw [toList_failureHeadline]
  simp

/-- Without a dash in the name the headline is taken out in full. -/
theorem summary_of_no_dash (h : ¬ DashInName name) :
    (ofParsingError state (SectionProvider.parsingError name message)).summary
      = failureHeadline name := by
  have hnone : ¬ " - ".toList
      <:+: (failureHeadline name).toList ++ " - ".toList.dropLast := by
    intro hdash
    rw [toList_failureHeadline, List.append_assoc] at hdash
    have hbefore := dash_of_append_failed hdash
    exact h (dash_of_words_append hbefore)
  unfold ofParsingError
  rw [toList_parsingError]
  simp only
  rw [Text.before_append hnone, String.ofList_toList]

/-- With a dash in the name the headline is taken out only so far. -/
theorem summary_of_dash (h : DashInName name) :
    ∃ lost, failureHeadline name
      = (ofParsingError state
          (SectionProvider.parsingError name message)).summary
        ++ " - " ++ lost := by
  have hdash : " - ".toList <:+: (failureHeadline name).toList := by
    rw [toList_failureHeadline]
    exact h.trans (List.infix_append _ _ _)
  obtain ⟨lost, hlost⟩ := Text.exists_eq_before_append hdash
    (" - ".toList ++ message.toList)
  refine ⟨String.ofList lost, String.toList_inj.mp ?_⟩
  unfold ofParsingError
  rw [toList_parsingError]
  simpa using hlost

end HostReport

-- ==================================================== the main statement

namespace SectionProvider

/-- A section that cannot be parsed is reported with the text that its provider
has kept of it, which says what was wrong. The summary names the section in
full exactly if no dash stands between blanks in its name; otherwise it ends
where the first one begins. -/
theorem summary_names_section_iff (catalog : SectionCatalog) (key : HostKey)
    (raw : HostSections) (state : State) {name : SectionName}
    {message : String} (h : catalog.Fails raw name message) :
    let error := parsingError name message
    let part := HostReport.ofParsingError state error
    error ∈ (ofSections key raw catalog).parsingErrors
      ∧ part.state = state
      ∧ part.details = [error]
      ∧ (part.summary = failureHeadline name ↔ ¬ DashInName name)
      ∧ (DashInName name →
        ∃ lost, failureHeadline name = part.summary ++ " - " ++ lost) := by
  intro error part
  have hrecorded : error ∈ (ofSections key raw catalog).parsingErrors := by
    rw [parsingErrors_ofSections]
    exact List.mem_map.mpr ⟨_, SectionCatalog.mem_failures.mpr h, rfl⟩
  refine ⟨hrecorded, rfl, rfl, ⟨?_, HostReport.summary_of_no_dash⟩,
    HostReport.summary_of_dash⟩
  intro hfull hdash
  obtain ⟨lost, hlost⟩ :
      ∃ lost, failureHeadline name = part.summary ++ " - " ++ lost :=
    HostReport.summary_of_dash hdash
  exact ne_append_dash _ lost (hfull.trans hlost)

/-- A plugin that makes no sense of a section. -/
def stubbornCatalog (name : SectionName) : SectionCatalog where
  plugins := .ofList [(name, { name, parse := fun _ => .failed "no rows - 0" })]

/-- A dash within a word does no harm, and neither does one in what was
wrong. -/
theorem summary_names_section_iff_hyphen :
    let raw := AgentOutput.parse "<<<mem-cache>>>\n1\n"
    let catalog := stubbornCatalog "mem-cache"
    let part := HostReport.ofParsingError .warn
      (parsingError "mem-cache" "no rows - 0")
    catalog.Fails raw "mem-cache" "no rows - 0"
      ∧ ¬ DashInName "mem-cache"
      ∧ part.summary = "Parsing of section mem-cache failed"
      ∧ part.details = ["Parsing of section mem-cache failed - no rows - 0"]
    := by
  intro raw catalog part
  have hrows : raw.sections.get? "mem-cache" = some [["1"]] := by
    decide +kernel
  have hfails : catalog.Fails raw "mem-cache" "no rows - 0" :=
    ⟨_, hrows, Or.inl rfl⟩
  have hdash : ¬ DashInName "mem-cache" := by decide
  obtain ⟨-, -, hdetails, hsummary, -⟩ :=
    summary_names_section_iff catalog default raw .warn hfails
  exact ⟨hfails, hdash, hsummary.mpr hdash, hdetails⟩

/-- A section whose name has a dash between blanks loses what follows it, and
the word that says what has become of the section. -/
theorem dash_in_name_cuts_summary :
    let raw := AgentOutput.parse "<<<a - b>>>\n1\n"
    let part := HostReport.ofParsingError .warn
      (parsingError "a - b" "no rows - 0")
    (stubbornCatalog "a - b").Fails raw "a - b" "no rows - 0"
      ∧ part.summary = "Parsing of section a"
      ∧ part.summary ≠ failureHeadline "a - b" := by
  intro raw part
  have hrows : raw.sections.get? "a - b" = some [["1"]] := by
    decide +kernel
  have hsummary : part.summary = "Parsing of section a" := by decide +kernel
  refine ⟨⟨_, hrows, Or.inl rfl⟩, hsummary, ?_⟩
  rw [hsummary]
  decide

end SectionProvider

end HostWatch
