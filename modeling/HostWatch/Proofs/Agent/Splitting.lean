/-
An agent's text cut in two.

A reading takes the lines one after the other, and what it has completed
before a line has no part in what the line does: sections that are put in
front of a reading stay in front of it (`Reading.line_onto`,
`Reading.foldl_onto`). A line that begins a section, or a block about another
host, ends the section under way, so from such a line on a reading goes like
one that begins there (`Reading.line_of_opens`), provided that the lines
before it were not about another host (`elsewhere_of_closed`). That is all
there is to cutting a text at such a line (`parse_append`).

The main statement (`parse_cut`) has this next to the laws of joining, for
texts cut in any number of places, and says what comes of sources that are
grouped by host key: for each key the sections of the one text that its
sources would make, and by name the rows of all of them and the first of the
oldest ages.
-/
import HostWatch.Proofs.Agent.Lines
import HostWatch.Proofs.Agent.Merging
import Mathlib.Data.List.Induction

namespace HostWatch.AgentOutput

-- ==================================================== sections in front

namespace Reading

variable {r : Reading} {base : HostSections}

/-- A reading with some sections in front of those that are complete. -/
def onto (base : HostSections) (r : Reading) : Reading :=
  { r with done := base.extend r.done }

/-- Sections in front of a reading are in front of what is read. -/
theorem sections_onto (base : HostSections) (hr : r.done.Covered) :
    (r.onto base).sections = base.extend r.sections := by
  unfold sections onto
  cases r.current with
  | none => rfl
  | some pending =>
      exact (HostSections.extend_addSection base hr _ _ _).symm

/-- What is read has ages of its own sections. -/
theorem covered_sections (hr : r.done.Covered) : r.sections.Covered := by
  unfold sections
  cases r.current with
  | none => exact hr
  | some pending => exact hr.addSection _ _ _

/-- A line completes the section under way, or none. -/
private theorem covered_line (hr : r.done.Covered) (text : List Char) :
    (r.line text).done.Covered := by
  cases hkind : lineKind text with
  | piggyback host =>
      rw [line_of_piggyback hkind]
      exact covered_sections hr
  | blank => rwa [line_of_blank hkind]
  | header inner =>
      cases helsewhere : r.elsewhere with
      | true => rwa [line_of_elsewhere helsewhere (by simp [hkind])]
      | false =>
          rw [line_of_header helsewhere hkind]
          exact covered_sections hr
  | data line =>
      cases helsewhere : r.elsewhere with
      | true => rwa [line_of_elsewhere helsewhere (by simp [hkind])]
      | false => rwa [line_of_data helsewhere hkind]

/-- Sections in front of a reading stay there. -/
private theorem line_onto (hr : r.done.Covered) (text : List Char) :
    (r.onto base).line text = (r.line text).onto base := by
  have hsections := sections_onto base hr
  cases hkind : lineKind text with
  | piggyback host =>
      rw [line_of_piggyback hkind, line_of_piggyback hkind, hsections]
      rfl
  | blank => rw [line_of_blank hkind, line_of_blank hkind]
  | header inner =>
      cases helsewhere : r.elsewhere with
      | true =>
          rw [line_of_elsewhere (r := r.onto base) helsewhere (by simp [hkind]),
            line_of_elsewhere helsewhere (by simp [hkind])]
      | false =>
          rw [line_of_header (r := r.onto base) helsewhere hkind,
            line_of_header helsewhere hkind, hsections]
          rfl
  | data line =>
      cases helsewhere : r.elsewhere with
      | true =>
          rw [line_of_elsewhere (r := r.onto base) helsewhere (by simp [hkind]),
            line_of_elsewhere helsewhere (by simp [hkind])]
      | false =>
          rw [line_of_data (r := r.onto base) helsewhere hkind,
            line_of_data helsewhere hkind]
          rfl

/-- Reading on keeps the ages with their sections. -/
theorem covered_foldl (texts : List (List Char)) :
    ∀ {r : Reading}, r.done.Covered → (texts.foldl line r).done.Covered := by
  induction texts with
  | nil => intro r hr; exact hr
  | cons text rest ih => intro r hr; exact ih (covered_line hr text)

/-- Reading on behind some sections is reading on, and then putting them in
front. -/
theorem foldl_onto (texts : List (List Char)) :
    ∀ {r : Reading}, r.done.Covered →
      texts.foldl line (r.onto base) = (texts.foldl line r).onto base := by
  induction texts with
  | nil => intro r _; rfl
  | cons text rest ih =>
      intro r hr
      rw [List.foldl_cons, line_onto hr, ih (covered_line hr text)]
      rfl

/-- Where the lines are not about another host, one that begins a section or a
block about another host ends what is under way, and the reading goes on as if
it began there. -/
theorem line_of_opens {text inner : List Char}
    (helsewhere : r.elsewhere = false) (h : IsHeader inner text) :
    r.line text = (({} : Reading).line text).onto r.sections := by
  have hempty := HostSections.extend_empty r.sections
  rcases lineKind_of_isHeader h with hkind | ⟨host, hkind⟩
  · rw [line_of_header helsewhere hkind, line_of_header rfl hkind]
    unfold onto
    exact congrArg (fun done => Reading.mk done _ _) hempty.symm
  · rw [line_of_piggyback hkind, line_of_piggyback hkind]
    unfold onto
    exact congrArg (fun done => Reading.mk done _ _) hempty.symm

end Reading

-- ==================================================== where to cut

/-- A text ends where another one may follow: it is made of whole lines, and
its last line about another host, if there is any, ends the block. -/
structure Closed (text : String) : Prop where
  whole : Text.WholeLines text.toList
  back : ∀ before line after host,
    Text.lines text.toList = before ++ line :: after →
      IsPiggyback host line → (∀ l ∈ after, ∀ h, ¬ IsPiggyback h l) → host = []

/-- A text may follow another one: it is empty, or its first line begins a
section or a block about another host. -/
def Opens (text : String) : Prop :=
  ∀ line ∈ (Text.lines text.toList).head?,
    (∃ inner, IsHeader inner line) ∨ ∃ host, IsPiggyback host line

/-- Both forms are that of a line that begins a section. -/
theorem Opens.isHeader {text : String} (h : Opens text) :
    ∀ line ∈ (Text.lines text.toList).head?, ∃ inner, IsHeader inner line := by
  intro line hline
  rcases h line hline with hheader | ⟨host, hhost⟩
  · exact hheader
  · exact ⟨_, hhost.isHeader⟩

/-- At each of the places at which a text has been cut, the piece before it
ends where another one may follow, and what is left may follow. -/
def CutAtBoundaries : List String → Prop
  | [] => True
  | [_] => True
  | text :: next :: rest =>
    Closed text ∧ Opens (String.join (next :: rest))
      ∧ CutAtBoundaries (next :: rest)

/-- The host that a line is about, if the line begins a block about another
host or ends one. -/
private def piggyback? (line : List Char) : Option (List Char) :=
  match lineKind line with
  | .piggyback host => some host
  | _ => none

private theorem piggyback?_eq_some_iff {line host : List Char} :
    piggyback? line = some host ↔ IsPiggyback host line := by
  rw [← lineKind_eq_piggyback_iff]
  unfold piggyback?
  cases lineKind line <;> simp

private theorem piggyback?_eq_none_iff {line : List Char} :
    piggyback? line = none ↔ ∀ host, ¬ IsPiggyback host line := by
  rw [Option.eq_none_iff_forall_ne_some]
  exact forall_congr' fun host => not_congr piggyback?_eq_some_iff

/-- The last line about another host is the first one from behind. -/
private theorem closed_iff {text : String} :
    Closed text ↔ Text.WholeLines text.toList
      ∧ ∀ host ∈ (Text.lines text.toList).reverse.findSome? piggyback?,
          host = [] := by
  constructor
  · rintro ⟨hwhole, hback⟩
    refine ⟨hwhole, fun host hhost => ?_⟩
    obtain ⟨after, line, before, hsplit, hline, hafter⟩ :=
      List.findSome?_eq_some_iff.mp hhost
    refine hback before.reverse line after.reverse host ?_
      (piggyback?_eq_some_iff.mp hline) fun l hl => ?_
    · rw [← List.reverse_reverse (Text.lines text.toList), hsplit]
      simp
    · exact piggyback?_eq_none_iff.mp (hafter l (List.mem_reverse.mp hl))
  · rintro ⟨hwhole, hlast⟩
    refine ⟨hwhole, fun before line after host hsplit hhost hafter => ?_⟩
    refine hlast host (List.findSome?_eq_some_iff.mpr
      ⟨after.reverse, line, before.reverse, ?_,
        piggyback?_eq_some_iff.mpr hhost, fun l hl => ?_⟩)
    · rw [hsplit]
      simp
    · exact piggyback?_eq_none_iff.mpr (hafter l (List.mem_reverse.mp hl))

/-- Whether a line of a kind ends what is under way. -/
private def opensKind : LineKind → Bool
  | .piggyback _ | .header _ => true
  | .blank | .data _ => false

/-- A line has one of the two forms exactly if it begins what they stand for. -/
private theorem opens_iff {text : String} :
    Opens text ↔ ∀ line ∈ (Text.lines text.toList).head?,
      opensKind (lineKind line) = true := by
  refine forall_congr' fun line => forall_congr' fun _ => ?_
  constructor
  · rintro (⟨inner, hheader⟩ | ⟨host, hhost⟩)
    · rcases lineKind_of_isHeader hheader with hkind | ⟨host, hkind⟩ <;>
        rw [hkind] <;> rfl
    · rw [lineKind_eq_piggyback_iff.mpr hhost]
      rfl
  · intro h
    cases hkind : lineKind line with
    | piggyback host =>
        exact Or.inr ⟨host, lineKind_eq_piggyback_iff.mp hkind⟩
    | header inner => exact Or.inl ⟨inner, (lineKind_eq_header_iff.mp hkind).1⟩
    | blank | data line' =>
        rw [hkind] at h
        cases h

instance (text : String) : Decidable (Closed text) :=
  haveI : Decidable (Text.WholeLines text.toList) :=
    inferInstanceAs (Decidable (_ ∨ _))
  decidable_of_iff _ closed_iff.symm

instance (text : String) : Decidable (Opens text) :=
  decidable_of_iff _ opens_iff.symm

/-- Behind a text that ends where another one may follow, the lines are not
about another host. -/
theorem elsewhere_of_closed {text : String} (h : Closed text) :
    ((Text.lines text.toList).foldl Reading.line {}).elsewhere = false := by
  have hback := h.back
  generalize Text.lines text.toList = texts at hback ⊢
  induction texts using List.reverseRecOn with
  | nil => rfl
  | append_singleton texts last ih =>
      rw [List.foldl_append]
      show (Reading.line _ last).elsewhere = false
      by_cases hlast : ∃ host, IsPiggyback host last
      · obtain ⟨host, hhost⟩ := hlast
        rw [Reading.line_of_piggyback (lineKind_eq_piggyback_iff.mpr hhost)]
        have hends : host = [] :=
          hback texts last [] host rfl hhost (List.forall_mem_nil _)
        rw [hends]
        rfl
      · rw [not_exists] at hlast
        rw [Reading.elsewhere_line hlast]
        refine ih fun before line after host hsplit hhost hafter => ?_
        refine hback before line (after ++ [last]) host (by simp [hsplit])
          hhost fun l hl => ?_
        rcases List.mem_append.mp hl with hl | hl
        · exact hafter l hl
        · rw [List.mem_singleton.mp hl]
          exact hlast

/-- Every text has ages of its own sections only. -/
theorem covered_parse (text : String) : (parse text).Covered :=
  Reading.covered_sections
    (Reading.covered_foldl _ HostSections.covered_empty)

/-- A text that is cut where one part ends and the other one may follow has the
sections of the two parts. -/
theorem parse_append {text rest : String} (hclosed : Closed text)
    (hopens : Opens rest) :
    parse (text ++ rest) = (parse text).extend (parse rest) := by
  unfold parse
  rw [String.toList_append, Text.lines_append hclosed.whole, List.foldl_append]
  have helsewhere := elsewhere_of_closed hclosed
  generalize (Text.lines text.toList).foldl Reading.line {} = r at helsewhere ⊢
  cases hlines : Text.lines rest.toList with
  | nil => exact (HostSections.extend_empty _).symm
  | cons first others =>
      obtain ⟨inner, hheader⟩ := hopens.isHeader first (by rw [hlines]; rfl)
      have hfirst : (({} : Reading).line first).done.Covered :=
        Reading.covered_foldl [first] HostSections.covered_empty
      rw [List.foldl_cons, List.foldl_cons,
        Reading.line_of_opens helsewhere hheader, Reading.foldl_onto _ hfirst,
        Reading.sections_onto _ (Reading.covered_foldl _ hfirst)]

/-- A text that is cut in any number of such places has the sections of its
pieces. -/
theorem parse_join {texts : List String} (h : CutAtBoundaries texts) :
    parse (String.join texts) = .join (texts.map parse) := by
  induction texts with
  | nil => rfl
  | cons text rest ih =>
      rw [List.map_cons, HostSections.join_cons (covered_parse text)]
      · cases rest with
        | nil =>
            rw [List.map_nil]
            show parse (String.join [text]) = (parse text).extend ∅
            rw [HostSections.extend_empty]
            congr 1
        | cons next rest =>
            obtain ⟨hclosed, hopens, hrest⟩ := h
            rw [← ih hrest, ← parse_append hclosed hopens]
            congr 1
            simp
      · intro other hother
        obtain ⟨text, -, rfl⟩ := List.mem_map.mp hother
        exact covered_parse text

-- ==================================================== the main statement

/-- Cutting a text where one part ends and another one may follow does no harm.
Sections whose ages are covered, such as those of every text, are joined like
words are: there is nothing to what is empty, and brackets do not matter. A
text that is cut has the sections of its parts, joined. So under each host key
there is what the one text has that the sources of the key make, and whatever
the sources are, by name the rows of all of them in order, and of their ages
the oldest one, and the first one of those. -/
theorem parse_cut :
    (HostSections.Covered ∅
      ∧ (∀ a b : HostSections, a.Covered → b.Covered → (a.extend b).Covered)
      ∧ (∀ a : HostSections, a.Covered →
          (∅ : HostSections).extend a = a ∧ a.extend ∅ = a)
      ∧ ∀ a b c : HostSections, a.Covered → b.Covered → c.Covered →
          (a.extend b).extend c = a.extend (b.extend c))
    ∧ (∀ text, (parse text).Covered)
    ∧ (∀ text rest, Closed text → Opens rest →
        parse (text ++ rest) = (parse text).extend (parse rest))
    ∧ (∀ (sources : List (HostKey × String)) (key : HostKey),
        let texts := (sources.filter (·.1 = key)).map (·.2)
        texts ≠ [] → CutAtBoundaries texts →
          (groupByHost (sources.map fun s => (s.1, parse s.2))).get? key
            = some (parse (String.join texts)))
    ∧ ∀ (sources : List (HostKey × HostSections)) (key : HostKey),
        (∀ source ∈ sources, source.2.Covered) →
        let all := (sources.filter (·.1 = key)).map (·.2)
        match (groupByHost sources).get? key with
        | none => all = []
        | some joined => all ≠ [] ∧ HostSections.IsJoined all joined := by
  refine ⟨⟨HostSections.covered_empty, fun a b => .extend, fun a ha =>
      ⟨HostSections.empty_extend ha, HostSections.extend_empty a⟩,
      fun a b c _ hb hc => HostSections.extend_assoc a hb hc⟩,
    covered_parse, fun text rest => parse_append, ?_, ?_⟩
  · intro sources key texts hne hcut
    have hown : ((sources.map fun s => (s.1, parse s.2)).filter
        (·.1 = key)).map (·.2) = texts.map parse := by
      show _ = ((sources.filter (·.1 = key)).map (·.2)).map parse
      rw [List.filter_map, List.map_map, List.map_map]
      rfl
    rw [get?_groupByHost, hown, parse_join hcut]
    cases htexts : texts with
    | nil => exact absurd htexts hne
    | cons text rest => rfl
  · intro sources key hsources
    have hall : ∀ h ∈ (sources.filter (·.1 = key)).map (·.2), h.Covered := by
      intro h hh
      obtain ⟨source, hsource, rfl⟩ := List.mem_map.mp hh
      exact hsources source (List.mem_filter.mp hsource).1
    rw [get?_groupByHost]
    generalize (sources.filter (·.1 = key)).map (·.2) = all at hall
    cases all with
    | nil => rfl
    | cons first rest =>
        exact ⟨List.cons_ne_nil _ _, HostSections.isJoined_join hall⟩

/-- A text with a block about another host, behind which it may be cut. -/
def blockText : String :=
  "<<<mem:cached(50,60)>>>\n1\n<<<<db>>>>\n<<<mem>>>\n9\n<<<<>>>>\r\n"

/-- A text with a later part of the same section, which is older. -/
def olderText : String := "<<<mem:cached(40,10)>>>\n2\n"

/-- Two sources of one host with a source of another host in between: the two
have the rows of the one text that they make, without those of the block, and
the age of the second one. -/
theorem parse_cut_behind_block :
    let web : HostKey := ⟨"web", .host⟩
    let db : HostKey := ⟨"db", .host⟩
    let sources := [(web, blockText), (db, "<<<mem>>>\n3\n"), (web, olderText)]
    let all := sources.map fun source => (source.1, parse source.2)
    Closed blockText ∧ Opens olderText
      ∧ parse (blockText ++ olderText)
        = (parse blockText).extend (parse olderText)
      ∧ CutAtBoundaries [blockText, olderText]
      ∧ (groupByHost all).get? web
        = some (parse (String.join [blockText, olderText]))
      ∧ (∀ source ∈ all, source.2.Covered)
      ∧ ∃ joined, (groupByHost all).get? web = some joined
        ∧ HostSections.IsJoined [parse blockText, parse olderText] joined
        ∧ joined.sections.get? "mem" = some [["1"], ["2"]]
        ∧ joined.cacheInfo.get? "mem" = some ⟨40, 10⟩ := by
  intro web db sources all
  have hclosed : Closed blockText := by decide +kernel
  have hopens : Opens olderText := by decide +kernel
  have hcut : CutAtBoundaries [blockText, olderText] :=
    ⟨hclosed, by decide +kernel, trivial⟩
  obtain ⟨-, hcovered, happend, hgroup, hjoined⟩ := parse_cut
  have hall : ∀ source ∈ all, source.2.Covered := by
    intro source hsource
    obtain ⟨source, -, rfl⟩ := List.mem_map.mp hsource
    exact hcovered source.2
  have hone := hgroup sources web (by decide) hcut
  have hmem := hjoined all web hall
  have hown : (all.filter (·.1 = web)).map (·.2)
      = [parse blockText, parse olderText] := by
    simp [all, sources, web, db]
  have hsaid : ∀ joined, (groupByHost all).get? web = some joined →
      joined.sections.get? "mem" = some [["1"], ["2"]]
        ∧ joined.cacheInfo.get? "mem" = some ⟨40, 10⟩ := by
    intro joined hget
    have hone' :
        some joined = some (parse (String.join [blockText, olderText])) :=
      hget.symm.trans hone
    rw [Option.some.inj hone']
    decide +kernel
  rw [hown] at hmem
  refine ⟨hclosed, hopens, happend _ _ hclosed hopens, hcut, hone, hall, ?_⟩
  cases hget : (groupByHost all).get? web with
  | none =>
      rw [hget] at hmem
      cases hmem
  | some joined =>
      rw [hget] at hmem
      exact ⟨joined, rfl, hmem.2, hsaid joined hget⟩

end HostWatch.AgentOutput
