/-
What the text of a service's result says, and that marking it twice does no
harm.

The reduction goes over the sub-results three times: for the worst state, for
the headline and for the lines below it. Where there are several of them each
text is marked with its state, unless the marker occurs in it already, so a
marker that a check function has put there itself counts
(`withMarker_withMarker`). That lifts to the whole reduction because a marked
summary is empty exactly if it was before: the same summaries are shown
(`shownSummaries_map_marked`), and the headline that stands in for them is
shown in the same cases.

The text is trimmed as a whole. The lines below the headline may be anything,
blank ones included, but they stand behind a line break, so a headline that is
a line of its own comes through (`summary_ofOutputs`). The one that is made up
where there is no summary always does (`isLine_detailsHeadline`), and with the
same words whatever the states are: whether they are true depends on the
sub-results alone.
-/
import HostWatch.Proofs.Decimal.Integer
import HostWatch.Proofs.ServiceResult
import HostWatch.Proofs.Text.Lines
import HostWatch.Proofs.Text.Search

namespace HostWatch

-- ==================================================== markers

/-- A text in which the marker occurs is not marked. -/
theorem withMarker_of_hasInfix {text marker : String}
    (h : Text.hasInfix marker.toList text.toList = true) :
    withMarker text marker = text :=
  if_pos h

theorem withMarker_empty (text : String) : withMarker text "" = text := by
  apply withMarker_of_hasInfix
  rw [Text.hasInfix_iff]
  exact List.nil_infix

/-- A text that has been marked is not marked again. -/
@[simp] theorem withMarker_withMarker (text marker : String) :
    withMarker (withMarker text marker) marker = withMarker text marker := by
  apply withMarker_of_hasInfix
  unfold withMarker
  split
  case isTrue hfound => exact hfound
  case isFalse =>
    rw [String.toList_append]
    exact Text.hasInfix_append _ _

/-- Marking leaves no text empty that was not. -/
theorem withMarker_ne_empty {text : String} (h : text ≠ "") (marker : String) :
    withMarker text marker ≠ "" := by
  unfold withMarker
  split
  · exact h
  · simp [h]

/-- A sub-result whose texts are marked beforehand, an empty summary apart. -/
def SubResult.marked (r : SubResult) : SubResult where
  state := r.state
  summary :=
    if r.summary = "" then "" else withMarker r.summary r.state.marker
  details := withMarker r.details r.state.marker

/-- An output with the texts of a sub-result marked beforehand. -/
def CheckOutput.marked : CheckOutput → CheckOutput
  | .metric m => .metric m
  | .result r => .result r.marked

/-- The summary of a marked sub-result is empty exactly if it was before. -/
theorem SubResult.marked_summary_eq_empty_iff {r : SubResult} :
    r.marked.summary = "" ↔ r.summary = "" := by
  unfold marked
  by_cases h : r.summary = ""
  · simp [h]
  · simp [h, withMarker_ne_empty h]

namespace CheckOutput

theorem results_map_marked (outputs : List CheckOutput) :
    results (outputs.map marked) = (results outputs).map SubResult.marked := by
  unfold results
  rw [List.filterMap_map, List.map_filterMap]
  apply List.filterMap_congr
  intro output _
  cases output <;> rfl

theorem metrics_map_marked (outputs : List CheckOutput) :
    metrics (outputs.map marked) = metrics outputs := by
  unfold metrics
  rw [List.filterMap_map]
  apply List.filterMap_congr
  intro output _
  cases output <;> rfl

end CheckOutput

-- ==================================================== the headline

namespace ServiceResult

variable {outputs : List CheckOutput} {results : List SubResult}

/-- The summaries that are shown: those that are not empty, each marked with
its state if there are several sub-results. -/
def shownSummaries (results : List SubResult) : List String :=
  (results.filter (·.summary ≠ "")).map fun r =>
    if 1 < results.length then withMarker r.summary r.state.marker
    else r.summary

theorem shownSummaries_eq_nil_iff :
    shownSummaries results = [] ↔ ∀ r ∈ results, r.summary = "" := by
  unfold shownSummaries
  simp [List.filter_eq_nil_iff]

/-- Marking with a marker, or with none. -/
private theorem withMarker_ite (p : Prop) [Decidable p]
    (text marker : String) :
    withMarker text (if p then marker else "")
      = if p then withMarker text marker else text := by
  split
  · rfl
  · exact withMarker_empty text

/-- The headline shows the summaries, or counts the details. -/
theorem headline_eq (results : List SubResult) :
    headline results
      = if shownSummaries results = [] then detailsHeadline results.length
        else ", ".intercalate (shownSummaries results) := by
  have hshown : ((results.filter (·.summary != "")).map fun r =>
      withMarker r.summary
        (if 1 < results.length then r.state.marker else ""))
        = shownSummaries results := by
    unfold shownSummaries
    simp only [withMarker_ite]
    congr 1
    apply List.filter_congr
    intro r _
    by_cases hr : r.summary = "" <;> simp [hr]
  rw [← hshown]
  simp only [← List.isEmpty_iff]
  rfl

/-- How a headline counts the details. -/
theorem detailsHeadline_eq (count : Nat) :
    detailsHeadline count
      = "Everything looks OK - " ++ toString count ++ " detail"
        ++ (if count = 1 then "" else "s") ++ " available" := by
  have hnoun : (if count = 1 then "detail" else "details")
      = "detail" ++ if count = 1 then "" else "s" := by
    split <;> decide
  show "Everything looks OK - " ++ toString count ++ " "
    ++ (if count = 1 then "detail" else "details") ++ " available" = _
  rw [hnoun]
  simp only [String.append_assoc]
  rfl

/-- Summaries that are not empty make a headline that is not. -/
private theorem headline_ne_empty (results : List SubResult) :
    headline results ≠ "" := by
  rw [headline_eq]
  split
  case isTrue => simp [detailsHeadline_eq]
  case isFalse hshown =>
    obtain ⟨first, more, hmore⟩ := List.exists_cons_of_ne_nil hshown
    have hfirst : first ≠ "" := by
      have hmem : first ∈ shownSummaries results := by simp [hmore]
      obtain ⟨r, hr, rfl⟩ := List.mem_map.mp hmem
      have hne : r.summary ≠ "" := by simpa using (List.mem_filter.mp hr).2
      split
      · exact withMarker_ne_empty hne _
      · exact hne
    rw [hmore]
    cases more with
    | nil => simpa using hfirst
    | cons next more =>
        rw [String.intercalate_cons_cons]
        simp [hfirst]

/-- The lines below the headline show the details in the same way. -/
theorem detailLines_eq (results : List SubResult) :
    detailLines results = results.map fun r =>
      if 1 < results.length then withMarker r.details r.state.marker
      else r.details := by
  simp only [← withMarker_ite]
  rfl

/-- The result of a check function that yields sub-results. -/
theorem ofOutputs_eq (h : CheckOutput.results outputs ≠ []) :
    ofOutputs outputs
      = { state := State.worstOrOk ((CheckOutput.results outputs).map (·.state))
          output := String.ofList (Text.trim
            ("\n".intercalate (headline (CheckOutput.results outputs)
              :: detailLines (CheckOutput.results outputs))).toList)
          metrics := CheckOutput.metrics outputs } := by
  unfold ofOutputs
  simp only
  rw [if_neg (by rw [List.isEmpty_iff]; exact h)]

-- ==================================================== marking beforehand

theorem shownSummaries_map_marked (h : 1 < results.length) :
    shownSummaries (results.map SubResult.marked) = shownSummaries results := by
  unfold shownSummaries
  rw [List.filter_map, List.map_map, List.length_map]
  have hfilter : results.filter
        ((fun r : SubResult => decide (r.summary ≠ "")) ∘ SubResult.marked)
      = results.filter (·.summary ≠ "") := by
    apply List.filter_congr
    intro r _
    simp [SubResult.marked_summary_eq_empty_iff]
  rw [hfilter]
  apply List.map_congr_left
  intro r hr
  have hne : r.summary ≠ "" := by simpa using (List.mem_filter.mp hr).2
  simp [h, SubResult.marked, hne]

theorem detailLines_map_marked (h : 1 < results.length) :
    detailLines (results.map SubResult.marked) = detailLines results := by
  rw [detailLines_eq, detailLines_eq, List.map_map, List.length_map]
  apply List.map_congr_left
  intro r _
  simp [h, SubResult.marked]

/-- Where there are several sub-results, it makes no difference whether their
texts have been marked before. -/
theorem ofOutputs_map_marked (h : 1 < (CheckOutput.results outputs).length) :
    ofOutputs (outputs.map CheckOutput.marked) = ofOutputs outputs := by
  have hne : CheckOutput.results outputs ≠ [] :=
    List.ne_nil_of_length_pos (by omega)
  have hheadline : headline ((CheckOutput.results outputs).map .marked)
      = headline (CheckOutput.results outputs) := by
    rw [headline_eq, headline_eq, shownSummaries_map_marked h, List.length_map]
  have hstates : ((CheckOutput.results outputs).map SubResult.marked).map
        (·.state) = (CheckOutput.results outputs).map (·.state) := by
    rw [List.map_map]
    rfl
  rw [ofOutputs_eq hne, ofOutputs_eq (by
      rw [CheckOutput.results_map_marked]
      simpa using hne),
    CheckOutput.results_map_marked, CheckOutput.metrics_map_marked,
    hheadline, detailLines_map_marked h, hstates]

-- ==================================================== the first line

/-- A headline that is a line of its own is the summary of the result. -/
theorem summary_ofOutputs (h : CheckOutput.results outputs ≠ [])
    (hline : Text.IsLine (headline (CheckOutput.results outputs)).toList) :
    (ofOutputs outputs).summary = headline (CheckOutput.results outputs) := by
  obtain ⟨r, rest, hresults⟩ := List.exists_cons_of_ne_nil h
  obtain ⟨below, hbelow⟩ : ∃ below : List Char,
      ("\n".intercalate (headline (CheckOutput.results outputs)
        :: detailLines (CheckOutput.results outputs))).toList
      = (headline (CheckOutput.results outputs)).toList ++ '\n' :: below := by
    have hlines : detailLines (CheckOutput.results outputs) ≠ [] := by
      rw [detailLines_eq]
      simpa using h
    obtain ⟨first, more, hmore⟩ := List.exists_cons_of_ne_nil hlines
    rw [hmore, String.intercalate_cons_cons]
    exact ⟨("\n".intercalate (first :: more)).toList, by simp⟩
  have hfirst := hline.head?_lines_trim
    (by simpa using headline_ne_empty _) below
  rw [ofOutputs_eq h, hbelow]
  unfold summary
  simp only [String.toList_ofList]
  split
  case h_1 hnil => rw [hnil] at hfirst; cases hfirst
  case h_2 line later hcons =>
    rw [hcons] at hfirst
    injection hfirst with hfirst
    rw [hfirst, String.ofList_toList]

/-- A headline that counts details is a line of its own. -/
theorem isLine_detailsHeadline (count : Nat) :
    Text.IsLine (detailsHeadline count).toList := by
  -- the ends are words, whatever the count is
  obtain ⟨middle, hmiddle, hbreaks⟩ : ∃ middle : List Char,
      (detailsHeadline count).toList
        = "Everything looks OK - ".toList ++ middle ++ " available".toList
      ∧ '\n' ∉ middle ∧ '\r' ∉ middle := by
    refine ⟨Nat.toDigits 10 count ++ " detail".toList
      ++ (if count = 1 then "" else "s").toList, ?_, ?_⟩
    · rw [detailsHeadline_eq]
      simp
    · have hdigits : ∀ c : Char, c.isDigit = false →
          c ∉ Nat.toDigits 10 count := by
        intro c hc hmem
        rw [Decimal.isDigit_toDigits count c hmem] at hc
        cases hc
      have hfeed := hdigits '\n' (by decide)
      have hreturn := hdigits '\r' (by decide)
      split <;> simp [hfeed, hreturn]
  rw [hmiddle]
  exact
    { newline_notMem := by simpa using hbreaks.1
      carriageReturn_notMem := by simpa using hbreaks.2
      head_not_blank := by simp; decide
      last_not_blank := by
        rw [List.getLast?_append_of_ne_nil _ (by decide)]
        simp
        decide }

/-- Where no sub-result has a summary, the first line counts the details. -/
theorem summary_of_no_summary (h : CheckOutput.results outputs ≠ [])
    (hempty : ∀ r ∈ CheckOutput.results outputs, r.summary = "") :
    (ofOutputs outputs).summary
      = detailsHeadline (CheckOutput.results outputs).length := by
  have hheadline : headline (CheckOutput.results outputs)
      = detailsHeadline (CheckOutput.results outputs).length := by
    rw [headline_eq, if_pos (shownSummaries_eq_nil_iff.mpr hempty)]
  have hline := isLine_detailsHeadline (CheckOutput.results outputs).length
  rw [← hheadline] at hline ⊢
  exact summary_ofOutputs h hline

-- ==================================================== the main statement

/-- The one result that outputs amount to. Without sub-results nothing was
found. With some of them the state is the worst of theirs, and the metrics are
all that were emitted, in order. Marking the texts of several sub-results
beforehand changes nothing. The first line shows the summaries, if they make a
line that can be told apart from what is below it, and counts the details if
there is no summary. -/
theorem ofOutputs_exact (outputs : List CheckOutput) :
    let results := CheckOutput.results outputs
    let result := ofOutputs outputs
    let shown := ", ".intercalate (shownSummaries results)
    (results = [] → result = .itemNotFound)
      ∧ (results ≠ [] → State.IsWorst (results.map (·.state)) result.state
        ∧ result.metrics = CheckOutput.metrics outputs)
      ∧ (2 ≤ results.length →
        ofOutputs (outputs.map CheckOutput.marked) = result)
      ∧ ((∃ r ∈ results, r.summary ≠ "") → Text.IsLine shown.toList →
        result.summary = shown)
      ∧ (results ≠ [] → (∀ r ∈ results, r.summary = "") →
        result.summary = "Everything looks OK - " ++ toString results.length
          ++ " detail" ++ (if results.length = 1 then "" else "s")
          ++ " available") := by
  intro results result shown
  refine ⟨ofOutputs_of_no_results, ?_, ofOutputs_map_marked, ?_, ?_⟩
  · intro h
    obtain ⟨hstate, hmetrics⟩ := ofOutputs_of_results h
    refine ⟨?_, hmetrics⟩
    rw [hstate]
    exact State.worstOrOk_isWorst _
  · rintro ⟨r, hr, hne⟩ hline
    have hshown : shownSummaries results ≠ [] := by
      unfold shownSummaries
      rw [Ne, List.map_eq_nil_iff]
      apply List.ne_nil_of_mem
      exact List.mem_filter.mpr ⟨hr, by simpa using hne⟩
    have hheadline : headline results = shown := by
      rw [headline_eq, if_neg hshown]
    rw [← hheadline] at hline ⊢
    exact summary_ofOutputs (List.ne_nil_of_mem hr) hline
  · intro h hempty
    rw [← detailsHeadline_eq]
    exact summary_of_no_summary h hempty

/-- A disk that is full, next to parts that have nothing for the first line and
nothing but blanks below it. -/
def diskOutputs : List CheckOutput :=
  [.ofSummary .crit "disk full(!!)", .ofValue "used" 90.0,
    .notice .warn "slow", .result ⟨.unknown, "lost", " \n"⟩]

/-- The worst state wins, and the first line shows two of the three parts; a
part alone that has no summary is counted. -/
theorem ofOutputs_exact_disk :
    2 ≤ (CheckOutput.results diskOutputs).length
      ∧ (ofOutputs diskOutputs).state = .unknown
      ∧ (ofOutputs diskOutputs).metrics = [{ name := "used", value := 90.0 }]
      ∧ ofOutputs (diskOutputs.map CheckOutput.marked) = ofOutputs diskOutputs
      ∧ (ofOutputs diskOutputs).summary = "disk full(!!), lost(?)"
      ∧ (ofOutputs [.notice .warn "slow"]).summary
        = "Everything looks OK - 1 detail available"
      ∧ ofOutputs [.ofValue "used" 90.0] = .itemNotFound := by
  obtain ⟨-, hworst, hmarked, hshown, -⟩ := ofOutputs_exact diskOutputs
  obtain ⟨-, -, -, -, hcounted⟩ := ofOutputs_exact [.notice .warn "slow"]
  have hnone := (ofOutputs_exact [.ofValue "used" 90.0]).1
  have hseveral : 2 ≤ (CheckOutput.results diskOutputs).length := by decide
  have htext : ", ".intercalate
      (shownSummaries (CheckOutput.results diskOutputs))
        = "disk full(!!), lost(?)" := by decide +kernel
  rw [htext] at hshown
  obtain ⟨hstate, hmetrics⟩ := hworst (by decide)
  refine ⟨hseveral, ?_, hmetrics, hmarked hseveral, ?_, ?_, hnone rfl⟩
  · -- nothing is worse than the state of the last part
    have hbound := hstate.1 .unknown (by decide)
    revert hbound
    cases (ofOutputs diskOutputs).state <;> decide
  · exact hshown ⟨_, List.mem_cons_self .., by decide⟩
      (by decide +kernel)
  · exact hcounted (by decide) (by decide)

-- ==================================================== headlines that reassure

/-- The headline of a result is made up: there are sub-results, and none of
them has a summary. -/
structure CountsDetails (outputs : List CheckOutput) : Prop where
  results_ne_nil : CheckOutput.results outputs ≠ []
  no_summary : ∀ r ∈ CheckOutput.results outputs, r.summary = ""

/-- A headline that is made up says that everything looks fine, whatever the
states are. The state of the result is the worst one of the sub-results all the
same, so the headline is true exactly if each of them is fine. -/
theorem counted_headline_true_iff (h : CountsDetails outputs) :
    (ofOutputs outputs).summary = "Everything looks OK - "
          ++ toString (CheckOutput.results outputs).length ++ " detail"
          ++ (if (CheckOutput.results outputs).length = 1 then "" else "s")
          ++ " available"
      ∧ State.IsWorst ((CheckOutput.results outputs).map (·.state))
        (ofOutputs outputs).state
      ∧ ((ofOutputs outputs).state = .ok
        ↔ ∀ r ∈ CheckOutput.results outputs, r.state = .ok) := by
  have hstate := (ofOutputs_of_results h.results_ne_nil).1
  refine ⟨?_, ?_, ?_⟩
  · rw [← detailsHeadline_eq]
    exact summary_of_no_summary h.results_ne_nil h.no_summary
  · rw [hstate]
    exact State.worstOrOk_isWorst _
  · rw [hstate, State.worstOrOk_eq_ok_iff, List.forall_mem_map]

/-- Two fans, of which one has failed; neither has anything for the first
line. -/
def fanOutputs : List CheckOutput :=
  [.notice .ok "fan 1 turns", .notice .crit "fan 2 stands still"]

/-- The headline is made up, and it is not true. -/
theorem counted_headline_true_iff_fans :
    CountsDetails fanOutputs
      ∧ (ofOutputs fanOutputs).summary
        = "Everything looks OK - 2 details available"
      ∧ (ofOutputs fanOutputs).state ≠ .ok
      ∧ ∃ r ∈ CheckOutput.results fanOutputs, r.state ≠ .ok := by
  have hcounts : CountsDetails fanOutputs := ⟨by decide, by decide⟩
  have hfailed : ∃ r ∈ CheckOutput.results fanOutputs, r.state ≠ .ok := by
    decide
  obtain ⟨hsummary, -, htrue⟩ := counted_headline_true_iff hcounts
  refine ⟨hcounts, hsummary, fun hok => ?_, hfailed⟩
  obtain ⟨r, hr, hne⟩ := hfailed
  exact hne (htrue.mp hok r hr)

/-- A headline that is made up does not make a result fine. -/
theorem counted_headline_over_failure :
    CountsDetails [.notice .crit "fan failed"]
      ∧ (ofOutputs [.notice .crit "fan failed"]).summary
        = "Everything looks OK - 1 detail available"
      ∧ (ofOutputs [.notice .crit "fan failed"]).state = .crit :=
  ⟨⟨by decide, by decide⟩, by decide +kernel, by decide +kernel⟩

end ServiceResult

end HostWatch
