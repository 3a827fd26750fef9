/-
Sections written as an agent's text and read back.

A written text is made of whole lines, so its lines are those that were
written (`parse_write_eq`), and each section is read by itself: the line that
begins it has the form that `lineKind` looks for and is not taken for one
about another host (`Section.Writable.lineKind_header`), its name and its age
stand where the reader cuts (`Section.Writable.read?_inner`), and its lines
are data, cut into the words that they have (`Section.Writable.line_of_mem`).
What a section adds to the ones before it is then what it adds to the
sections of the list (`Section.Writable.foldl_texts`), repeated names and
older ages included, and the whole text is an induction over its sections
(`parse_write`).

The one thing that could go wrong is a name that is framed by angle brackets
itself: its line would begin a block about another host. A name that only
begins so is harmless.
-/
import HostWatch.Proofs.Agent.Lines
import HostWatch.Proofs.Agent.Merging
import HostWatch.Proofs.Decimal.Integer

namespace HostWatch.AgentOutput

-- ==================================================== what can be written

/-- A section survives being written: its name has no character that ends it,
its ages are numbers of 64 bits, and each of its lines is a line of data. -/
structure Section.Writable (s : Section) : Prop where
  name_ne_empty : s.name ≠ ""
  colon_notMem : ':' ∉ s.name.toList
  newline_notMem : '\n' ∉ s.name.toList
  not_bracketed :
    ¬ (s.name.toList.head? = some '<' ∧ s.name.toList.getLast? = some '>')
  age_bounded : ∀ info ∈ s.cacheInfo,
    ∀ number ∈ [info.retrievalTime, info.maxAge],
      Decimal.minSigned64 ≤ number ∧ number ≤ Decimal.maxSigned64
  line_newline_notMem : ∀ line ∈ s.lines, '\n' ∉ line.toList
  line_not_blank : ∀ line ∈ s.lines, Text.allBlank line.toList = false
  line_not_header : ∀ line ∈ s.lines, ∀ inner, ¬ IsHeader inner line.toList

namespace Section

/-- Whether a section survives being written can be told from the kinds of its
lines. -/
private theorem writable_iff (s : Section) :
    s.Writable
      ↔ s.name ≠ "" ∧ ':' ∉ s.name.toList ∧ '\n' ∉ s.name.toList
        ∧ ¬ (s.name.toList.head? = some '<' ∧ s.name.toList.getLast? = some '>')
        ∧ (∀ info ∈ s.cacheInfo, ∀ number ∈ [info.retrievalTime, info.maxAge],
          Decimal.minSigned64 ≤ number ∧ number ≤ Decimal.maxSigned64)
        ∧ ∀ line ∈ s.lines, '\n' ∉ line.toList ∧ lineKind line.toList
          = .data (Text.dropEndWhile (· == '\r') line.toList) := by
  constructor
  · intro h
    exact ⟨h.name_ne_empty, h.colon_notMem, h.newline_notMem, h.not_bracketed,
      h.age_bounded, fun line hline => ⟨h.line_newline_notMem line hline,
        lineKind_eq_data_iff.mpr ⟨h.line_not_header line hline,
          h.line_not_blank line hline⟩⟩⟩
  · rintro ⟨hname, hcolon, hnewline, hbracketed, hage, hlines⟩
    exact ⟨hname, hcolon, hnewline, hbracketed, hage,
      fun line hline => (hlines line hline).1,
      fun line hline => (lineKind_eq_data_iff.mp (hlines line hline).2).2,
      fun line hline => (lineKind_eq_data_iff.mp (hlines line hline).2).1⟩

instance (s : Section) : Decidable s.Writable :=
  decidable_of_iff _ (writable_iff s).symm

/-- The head of a section that is written. -/
def head (s : Section) : Header := { name := s.name, cacheInfo := s.cacheInfo }

/-- The rows of a section. -/
def rows (s : Section) : Table := s.lines.map fun line => cells none line.toList

/-- The lines that a section is written with. -/
def texts (s : Section) : List String := s.header :: s.lines

/-- What stands between the brackets of an option `cached`. -/
def cachedArguments (info : CacheInfo) : List Char :=
  (toString info.retrievalTime).toList ++ ',' :: (toString info.maxAge).toList

/-- What stands between the angle brackets of the line that begins a section. -/
def inner (s : Section) : List Char :=
  match s.cacheInfo with
  | some info =>
      s.name.toList
        ++ ':' :: ("cached(".toList ++ cachedArguments info ++ [')'])
  | none => s.name.toList

-- ================================================ the line that begins it

/-- A text is its own representation. -/
private theorem toString_text (s : String) : toString s = s := rfl

/-- A section begins with a line of that form. -/
theorem isHeader_header (s : Section) : IsHeader s.inner s.header.toList := by
  refine ⟨0, ?_⟩
  rw [List.replicate_zero, List.append_nil]
  unfold header inner
  cases s.cacheInfo with
  | none => simp only [toString_text, String.toList_append]
  | some info =>
      simp only [toString_text, String.toList_append, cachedArguments,
        List.append_assoc, List.cons_append]
      rfl

/-- The line that begins a section is not about another host. -/
private theorem Writable.not_isPiggyback {s : Section} (hs : s.Writable)
    (host : List Char) : ¬ IsPiggyback host s.header.toList := by
  intro h
  have hinner : s.inner = '<' :: host ++ ['>'] :=
    s.isHeader_header.unique h.isHeader
  have hlast : s.inner.getLast? = some '>' := by
    rw [hinner, List.cons_append, ← List.cons_append, List.getLast?_concat]
  unfold inner at hinner hlast
  cases hinfo : s.cacheInfo with
  | none =>
      rw [hinfo] at hinner hlast
      refine hs.not_bracketed ⟨?_, hlast⟩
      rw [show s.name.toList = _ from hinner]
      rfl
  | some info =>
      rw [hinfo] at hlast
      simp only at hlast
      rw [List.getLast?_append, List.getLast?_cons, List.getLast?_concat]
        at hlast
      cases hlast

/-- The line that begins a section is taken for such a line. -/
theorem Writable.lineKind_header {s : Section} (hs : s.Writable) :
    lineKind s.header.toList = .header s.inner :=
  lineKind_eq_header_iff.mpr ⟨s.isHeader_header, hs.not_isPiggyback⟩

-- ================================================ the head of a section

/-- The characters of a number are neither blank nor separators. -/
private theorem notBlank_of_mem_toString {i : Int} {c : Char}
    (h : c ∈ (toString i).toList) :
    Text.isBlank c = false ∧ c ∉ [',', ':', '\n'] := by
  rcases Decimal.mem_toString h with rfl | hdigit
  · decide
  · have hrange : 48 ≤ c.toNat ∧ c.toNat ≤ 57 := by
      simpa [Char.isDigit, UInt32.le_iff_toNat_le] using hdigit
    constructor
    · simp [Text.isBlank]
      omega
    · simp only [List.mem_cons, List.not_mem_nil, or_false]
      rintro (rfl | rfl | rfl) <;> revert hrange <;> decide

/-- A number is read back from where it stands, if it has 64 bits. -/
private theorem readSigned64?_trim_toString {i : Int}
    (hi : Decimal.minSigned64 ≤ i ∧ i ≤ Decimal.maxSigned64) :
    Decimal.readSigned64? (Text.trim (toString i).toList) = some i := by
  rw [Text.trim_of_not_blank fun c hc => (notBlank_of_mem_toString hc).1]
  exact Decimal.readSigned64?_toString hi.1 hi.2

/-- An age is read back from the option that it is written with. -/
private theorem readCached?_cachedArguments {info : CacheInfo}
    (hinfo : ∀ number ∈ [info.retrievalTime, info.maxAge],
      Decimal.minSigned64 ≤ number ∧ number ≤ Decimal.maxSigned64) :
    readCached? (cachedArguments info) = some info := by
  have hcomma : ∀ i : Int, ',' ∉ (toString i).toList :=
    fun i h => (notBlank_of_mem_toString h).2 (by decide)
  unfold readCached? cachedArguments
  rw [Text.splitOn_append_cons (hcomma _), Text.splitOn_of_not_mem (hcomma _)]
  simp only
  rw [readSigned64?_trim_toString (hinfo _ (by simp)),
    readSigned64?_trim_toString (hinfo _ (by simp))]
  rfl

/-- There is nothing in an age that ends an option or a line. -/
private theorem notMem_cachedArguments {c : Char} (hc : c ∈ [':', '\n'])
    (info : CacheInfo) : c ∉ cachedArguments info := by
  have hnumber : ∀ i : Int, c ∉ (toString i).toList :=
    fun i h => (notBlank_of_mem_toString h).2 (List.mem_cons_of_mem _ hc)
  have hcomma : c ≠ ',' := by
    rintro rfl
    exact absurd hc (by decide)
  unfold cachedArguments
  rw [List.mem_append, List.mem_cons]
  exact not_or.mpr ⟨hnumber _, not_or.mpr ⟨hcomma, hnumber _⟩⟩

/-- The head of a section is read back from the line that begins it. -/
theorem Writable.read?_inner {s : Section} (hs : s.Writable) :
    Header.read? s.inner = some s.head := by
  have hname : ∃ c rest, s.name.toList = c :: rest :=
    List.exists_cons_of_ne_nil fun h =>
      hs.name_ne_empty (String.toList_eq_nil_iff.mp h)
  obtain ⟨c, rest, hc⟩ := hname
  have hofList : String.ofList (c :: rest) = s.name := by
    rw [← hc, String.ofList_toList]
  unfold Header.read? inner head
  cases hinfo : s.cacheInfo with
  | none =>
      simp only
      rw [Text.splitOn_of_not_mem hs.colon_notMem, hc]
      simp only [List.foldl_nil, hofList]
  | some info =>
      simp only
      have hcolon :
          ':' ∉ "cached(".toList ++ cachedArguments info ++ [')'] := by
        simp [notMem_cachedArguments]
      rw [Text.splitOn_append_cons hs.colon_notMem,
        Text.splitOn_of_not_mem hcolon, hc]
      simp only [List.foldl_cons, List.foldl_nil, hofList]
      unfold Header.withOption
      rw [Text.unframe?_eq_some_iff.mpr rfl]
      simp only
      rw [readCached?_cachedArguments (hs.age_bounded info hinfo)]

-- ================================================ the lines of a section

/-- A line of a section becomes a row of it. -/
private theorem Writable.line_of_mem {s : Section} (hs : s.Writable)
    {line : String} (hline : line ∈ s.lines) {done : HostSections}
    {rows : Table} :
    ({ done, current := some (s.head, rows) } : Reading).line line.toList
      = { done
          current := some (s.head, rows ++ [cells none line.toList]) } := by
  rw [Reading.line_of_data rfl (lineKind_eq_data_iff.mpr
    ⟨hs.line_not_header line hline, hs.line_not_blank line hline⟩)]
  -- the carriage returns that were dropped are blanks between words
  unfold cells
  show _ = Reading.mk done
    (some (s.head, rows ++ [(Text.words line.toList).map String.ofList])) false
  rw [← Text.words_dropEndWhile line.toList]
  rfl

/-- The lines of a section become its rows. -/
private theorem Writable.foldl_lines {s : Section} (hs : s.Writable)
    (done : HostSections) :
    ∀ (lines : List String) (rows : Table), (∀ line ∈ lines, line ∈ s.lines) →
      lines.foldl (fun r line => r.line line.toList)
          ({ done, current := some (s.head, rows) } : Reading)
        = { done
            current := some (s.head,
              rows ++ lines.map fun line => cells none line.toList) } := by
  intro lines
  induction lines with
  | nil =>
      intro rows _
      rw [List.map_nil, List.append_nil]
      rfl
  | cons line lines ih =>
      intro rows hlines
      have hrest : ∀ line ∈ lines, line ∈ s.lines :=
        fun line hline => hlines line (List.mem_cons_of_mem _ hline)
      rw [List.foldl_cons, hs.line_of_mem (hlines line (List.mem_cons_self ..)),
        ih _ hrest, List.map_cons, List.append_assoc]
      rfl

/-- The lines that a section is written with complete the one before it, and
leave it under way. -/
theorem Writable.foldl_texts {s : Section} (hs : s.Writable) {r : Reading}
    (hr : r.elsewhere = false) :
    s.texts.foldl (fun r line => r.line line.toList) r
      = { done := r.sections, current := some (s.head, s.rows) } := by
  unfold texts
  rw [List.foldl_cons, Reading.line_of_header hr hs.lineKind_header,
    hs.read?_inner]
  show s.lines.foldl _
    ({ done := r.sections, current := some (s.head, []) } : Reading) = _
  rw [hs.foldl_lines _ _ _ fun _ hline => hline]
  rfl

/-- A section is written with lines of text. -/
private theorem Writable.newline_notMem_texts {s : Section} (hs : s.Writable) :
    ∀ text ∈ s.texts, '\n' ∉ text.toList := by
  intro text htext
  rcases List.mem_cons.mp htext with rfl | hline
  · obtain ⟨n, hn⟩ := s.isHeader_header
    rw [hn]
    unfold inner
    have hname := hs.newline_notMem
    cases s.cacheInfo with
    | none => simp [hname]
    | some info => simp [hname, notMem_cachedArguments]
  · exact hs.line_newline_notMem text hline

end Section

-- ================================================ texts of sections

/-- A written text is the lines of its sections. -/
private theorem write_eq_join (sections : List Section) :
    write sections = String.join
      ((sections.flatMap Section.texts).map fun text => text ++ "\n") := by
  unfold write
  induction sections with
  | nil => rfl
  | cons s sections ih =>
      rw [List.map_cons, String.join_cons, ih, List.flatMap_cons,
        List.map_append, String.join_append]
      rfl

/-- Sections that are written and read follow those that were read before, as
they follow them in the list. -/
private theorem foldl_flatMap_texts {sections : List Section}
    (h : ∀ s ∈ sections, s.Writable) :
    ∀ r : Reading, r.elsewhere = false →
      ((sections.flatMap Section.texts).foldl
          (fun r text => r.line text.toList) r).sections
        = sections.foldl (fun acc s => acc.addSection s.name s.rows s.cacheInfo)
            r.sections := by
  induction sections with
  | nil => intro r _; rfl
  | cons s sections ih =>
      intro r hr
      rw [List.flatMap_cons, List.foldl_append,
        (h s (List.mem_cons_self ..)).foldl_texts hr,
        ih (fun s hs => h s (List.mem_cons_of_mem _ hs)) _ rfl]
      rfl

/-- What is read from the text that sections are written as are the sections
of the list. -/
private theorem parse_write_eq {sections : List Section}
    (h : ∀ s ∈ sections, s.Writable) :
    parse (write sections) = collect sections := by
  have hlines :
      ∀ text ∈ sections.flatMap Section.texts, '\n' ∉ text.toList := by
    intro text htext
    obtain ⟨s, hs, htext⟩ := List.mem_flatMap.mp htext
    exact (h s hs).newline_notMem_texts text htext
  unfold parse
  rw [write_eq_join, Reading.foldl_lines_join hlines, foldl_flatMap_texts h _ rfl]
  rfl

-- ================================================ the sections of a list

/-- A section of a list by itself. -/
def Section.alone (s : Section) : HostSections :=
  (∅ : HostSections).addSection s.name s.rows s.cacheInfo

/-- The sections of a list are joined. -/
private theorem collect_eq_join (sections : List Section) :
    collect sections = .join (sections.map Section.alone) := by
  have hadd : ∀ (h : HostSections) (s : Section),
      h.addSection s.name s.rows s.cacheInfo = h.extend s.alone := by
    intro h s
    unfold Section.alone
    rw [HostSections.extend_addSection h HostSections.covered_empty,
      HostSections.extend_empty]
  unfold HostSections.join
  rw [List.foldl_map]
  simp only [← hadd]
  rfl

/-- The sections of a list, joined. -/
private theorem isJoined_collect (sections : List Section) :
    HostSections.IsJoined (sections.map Section.alone) (collect sections) := by
  rw [collect_eq_join]
  refine HostSections.isJoined_join fun h hh => ?_
  obtain ⟨s, -, rfl⟩ := List.mem_map.mp hh
  exact HostSections.covered_empty.addSection _ _ _

/-- What is found under a name is what the sections of that name have. -/
private theorem filterMap_alone {α : Type} (view : HostSections → Option α)
    (own : Section → Option α) (sections : List Section) {name : SectionName}
    (h : ∀ s : Section, view s.alone = if name = s.name then own s else none) :
    (sections.map Section.alone).filterMap view
      = (sections.filter (·.name = name)).filterMap own := by
  rw [List.filterMap_map, List.filterMap_filter]
  refine congrArg (sections.filterMap ·) (funext fun s => ?_)
  rw [Function.comp_apply, h]
  simp only [decide_eq_true_eq, @eq_comm _ name]

/-- The sections of a list by name: the rows of all sections of the name, and
the oldest one of their ages. -/
private theorem collect_by_name (sections : List Section) (name : SectionName) :
    let own := sections.filter (·.name = name)
    (collect sections).sections.get? name
        = (if own = [] then none else some (own.flatMap Section.rows))
      ∧ match (collect sections).cacheInfo.get? name with
        | some info => IsOldest (own.filterMap (·.cacheInfo)) info
        | none => own.filterMap (·.cacheInfo) = [] := by
  have hjoined := isJoined_collect sections
  have hrows := hjoined.rows name
  have hages := hjoined.ages name
  rw [filterMap_alone _ (fun s => some s.rows) _ fun s => by
    unfold Section.alone
    rw [HostSections.get?_sections_addSection]
    exact Option.merge_none_left] at hrows
  rw [filterMap_alone _ Section.cacheInfo _ fun s => by
    unfold Section.alone
    rw [HostSections.get?_cacheInfo_addSection]
    exact Option.merge_none_left] at hages
  refine ⟨?_, hages⟩
  rw [hrows, List.flatMap_def]
  cases sections.filter (·.name = name) with
  | nil => rfl
  | cons first rest => simp

/-- What is read from the text that sections are written as are the sections
of the list. Under a name these are the rows of all its sections, in order, and
the oldest one of their ages, the first one of those. -/
theorem parse_write {sections : List Section}
    (h : ∀ s ∈ sections, s.Writable) :
    parse (write sections) = collect sections
      ∧ ∀ name,
        let own := sections.filter (·.name = name)
        (collect sections).sections.get? name
            = (if own = [] then none else some (own.flatMap Section.rows))
          ∧ match (collect sections).cacheInfo.get? name with
            | some info => IsOldest (own.filterMap (·.cacheInfo)) info
            | none => own.filterMap (·.cacheInfo) = [] :=
  ⟨parse_write_eq h, collect_by_name sections⟩

/-- Sections of which two have the same name and the later one is older, with a
name that begins like a block about another host, the earliest time there is
and a line that ends in a carriage return. -/
def mixedSections : List Section :=
  [{ name := "mem", lines := ["total  4096\r", "\tfree 7"],
     cacheInfo := some ⟨50, -1⟩ },
   { name := "<up", lines := [] },
   { name := "mem", lines := ["<<<swap>>> 3"],
     cacheInfo := some ⟨Decimal.minSigned64, 60⟩ }]

/-- They are read back, the two of the same name as one. -/
theorem parse_write_mixed :
    (∀ s ∈ mixedSections, s.Writable)
      ∧ parse (write mixedSections) = collect mixedSections
      ∧ (collect mixedSections).sections.get? "mem"
        = some [["total", "4096"], ["free", "7"], ["<<<swap>>>", "3"]]
      ∧ (collect mixedSections).cacheInfo.get? "mem"
        = some ⟨Decimal.minSigned64, 60⟩ := by
  have hwritable : ∀ s ∈ mixedSections, s.Writable := by decide +kernel
  exact ⟨hwritable, (parse_write hwritable).1, by decide +kernel,
    by decide +kernel⟩

end HostWatch.AgentOutput
