/-
Cutting texts and putting them together again.

Lines are cut at line feeds, so a text that is put together of whole lines
is cut into those lines again: nothing that follows the last line feed can
change what stands before it (`lines_append`). A line that was ended by a
line feed is read back but for a carriage return at its end
(`lines_append_line`), and what is framed by a lead and a tail is found
between them (`unframe?_eq_some_iff`). A text that is cut in two at the first
separator is put together again from the two (`splitFirst?_eq_some_iff`).

Blanks at the end of a line are no part of its words (`words_append_blanks`),
so the carriage returns there can be dropped before a line is cut into words
or after. Nor can trimming a text touch a first line that neither begins nor
ends with a blank: what is cut off stands behind it, and takes the break after
it along or leaves it (`IsLine.head?_lines_trim`).
-/
import HostWatch.Text.Blank
import HostWatch.Text.Split
import Mathlib.Data.List.Infix
import Mathlib.Data.List.TakeWhile

namespace HostWatch.Text

-- ==================================================== separators

/-- A text without the separator is one piece. -/
theorem splitOn_of_not_mem {sep : Char} {s : List Char} (h : sep ∉ s) :
    splitOn sep s = [s] := by
  induction s with
  | nil => rfl
  | cons c rest ih =>
      rw [List.mem_cons, not_or] at h
      unfold splitOn
      rw [if_neg (Ne.symm h.1), ih h.2]

/-- The first piece ends at the first separator. -/
theorem splitOn_append_cons {sep : Char} {s : List Char} (h : sep ∉ s)
    (rest : List Char) :
    splitOn sep (s ++ sep :: rest) = s :: splitOn sep rest := by
  induction s with
  | nil =>
      show splitOn sep (sep :: rest) = _
      rw [splitOn, if_pos rfl]
  | cons c s ih =>
      rw [List.mem_cons, not_or] at h
      show splitOn sep (c :: (s ++ sep :: rest)) = _
      rw [splitOn, if_neg (Ne.symm h.1), ih h.2]

/-- A text is cut at its first separator. -/
private theorem splitFirst?_append_cons {sep : Char} {before : List Char}
    (h : sep ∉ before) (after : List Char) :
    splitFirst? sep (before ++ sep :: after) = some (before, after) := by
  induction before with
  | nil =>
      show splitFirst? sep (sep :: after) = _
      rw [splitFirst?, if_pos rfl]
  | cons c before ih =>
      rw [List.mem_cons, not_or] at h
      show splitFirst? sep (c :: (before ++ sep :: after)) = _
      rw [splitFirst?, if_neg (Ne.symm h.1), ih h.2]
      rfl

/-- What a text is cut into are the parts around a separator, of which the
first one has none itself. -/
theorem splitFirst?_eq_some_iff {sep : Char} {s before after : List Char} :
    splitFirst? sep s = some (before, after)
      ↔ s = before ++ sep :: after ∧ sep ∉ before := by
  refine ⟨fun h => ?_, fun ⟨hs, hsep⟩ => hs ▸ splitFirst?_append_cons hsep after⟩
  induction s generalizing before with
  | nil => cases h
  | cons c rest ih =>
      unfold splitFirst? at h
      split at h
      case isTrue hc =>
        cases h
        exact ⟨by rw [hc, List.nil_append], List.not_mem_nil⟩
      case isFalse hc =>
        obtain ⟨⟨before', after'⟩, hrest, hparts⟩ := Option.map_eq_some_iff.mp h
        cases hparts
        obtain ⟨rfl, hsep⟩ := ih hrest
        exact ⟨rfl, by simpa using ⟨Ne.symm hc, hsep⟩⟩

-- ==================================================== lines

/-- A text that has some character has some piece. -/
private theorem lineBlocks_ne_nil {s : List Char} (h : s ≠ []) :
    lineBlocks s ≠ [] := by
  cases s with
  | nil => exact absurd rfl h
  | cons c rest =>
      unfold lineBlocks
      split
      · exact List.cons_ne_nil _ _
      · split <;> exact List.cons_ne_nil _ _

/-- A text is made of whole lines: it is empty, or it ends in a line feed. -/
def WholeLines (s : List Char) : Prop := s = [] ∨ s.getLast? = some '\n'

/-- Whole lines stay whole without their first character, a line feed apart
that stands for itself. -/
private theorem WholeLines.tail {c : Char} {s : List Char}
    (h : WholeLines (c :: s)) (hc : c ≠ '\n') : s ≠ [] ∧ WholeLines s := by
  rcases h with h | h
  · cases h
  · cases s with
    | nil =>
        rw [List.getLast?_singleton] at h
        exact absurd (Option.some.inj h) hc
    | cons d s =>
        rw [List.getLast?_cons_cons] at h
        exact ⟨List.cons_ne_nil _ _, Or.inr h⟩

/-- What follows whole lines is cut by itself. -/
private theorem lineBlocks_append {s : List Char} (h : WholeLines s)
    (rest : List Char) :
    lineBlocks (s ++ rest) = lineBlocks s ++ lineBlocks rest := by
  induction s with
  | nil => rfl
  | cons c s ih =>
      show lineBlocks (c :: (s ++ rest)) = _
      by_cases hc : c = '\n'
      · have hs : WholeLines s := by
          rcases h with h | h
          · cases h
          · cases s with
            | nil => exact Or.inl rfl
            | cons d s => exact Or.inr (by rwa [List.getLast?_cons_cons] at h)
        rw [lineBlocks, lineBlocks, if_pos hc, if_pos hc, ih hs]
        rfl
      · obtain ⟨hne, hs⟩ := h.tail hc
        rw [lineBlocks, lineBlocks, if_neg hc, if_neg hc, ih hs]
        cases hblocks : lineBlocks s with
        | nil => exact absurd hblocks (lineBlocks_ne_nil hne)
        | cons p ps => rfl

/-- The lines of whole lines and of what follows them are those of the two. -/
theorem lines_append {s : List Char} (h : WholeLines s) (rest : List Char) :
    lines (s ++ rest) = lines s ++ lines rest := by
  unfold lines
  rw [lineBlocks_append h, List.map_append]

/-- A line that is ended is one piece. -/
private theorem lineBlocks_line {line : List Char} (h : '\n' ∉ line) :
    lineBlocks (line ++ ['\n']) = [line ++ ['\n']] := by
  induction line with
  | nil => rfl
  | cons c line ih =>
      rw [List.mem_cons, not_or] at h
      show lineBlocks (c :: (line ++ ['\n'])) = _
      rw [lineBlocks, if_neg (Ne.symm h.1), ih h.2]
      rfl

/-- A line that is not ended is one piece. -/
private theorem lineBlocks_of_not_mem {s : List Char} (hne : s ≠ [])
    (h : '\n' ∉ s) : lineBlocks s = [s] := by
  induction s with
  | nil => exact absurd rfl hne
  | cons c s ih =>
      rw [List.mem_cons, not_or] at h
      rw [lineBlocks, if_neg (Ne.symm h.1)]
      cases s with
      | nil => rfl
      | cons d s => rw [ih (by simp) h.2]

/-- A line that is ended, before others. -/
theorem lines_append_line {line : List Char} (h : '\n' ∉ line)
    (rest : List Char) :
    lines ((line ++ ['\n']) ++ rest)
      = stripLineEnd (line ++ ['\n']) :: lines rest := by
  have hwhole : WholeLines (line ++ ['\n']) :=
    Or.inr List.getLast?_concat
  rw [lines_append hwhole]
  unfold lines
  rw [lineBlocks_line h]
  rfl

-- ==================================================== ends of texts

/-- Nothing is dropped in front of a text that begins with another character. -/
private theorem dropWhile_of_head? {p : Char → Bool} {s : List Char}
    (h : ∀ c ∈ s.head?, p c = false) : s.dropWhile p = s := by
  cases s with
  | nil => rfl
  | cons c s =>
      apply List.dropWhile_cons_of_neg
      simp [h c rfl]

/-- What is dropped at the end of a text is dropped behind its last character
that stays. -/
theorem dropEndWhile_append_of_getLast? {p : Char → Bool} {s : List Char}
    (h : ∀ c ∈ s.getLast?, p c = false) (rest : List Char) :
    dropEndWhile p (s ++ rest) = s ++ dropEndWhile p rest := by
  have hstays : s.reverse.dropWhile p = s.reverse :=
    dropWhile_of_head? (by rwa [List.head?_reverse])
  unfold dropEndWhile
  rw [List.reverse_append, List.dropWhile_append, hstays]
  split
  case isTrue hempty =>
    rw [List.isEmpty_iff.mp hempty]
    simp
  case isFalse => simp

/-- What is dropped at the end of a text is some repetition. -/
theorem dropEndWhile_append_replicate (c : Char) (s : List Char) :
    ∃ n, s = dropEndWhile (· == c) s ++ List.replicate n c := by
  unfold dropEndWhile
  obtain ⟨n, hn⟩ : ∃ n, s.reverse.takeWhile (· == c) = List.replicate n c :=
    ⟨_, List.eq_replicate_iff.mpr ⟨rfl, fun d hd =>
      by simpa using List.all_eq_true.mp List.all_takeWhile d hd⟩⟩
  refine ⟨n, ?_⟩
  have hsplit := congrArg List.reverse
    (List.takeWhile_append_dropWhile (p := (· == c)) (l := s.reverse))
  rw [List.reverse_append, List.reverse_reverse, hn, List.reverse_replicate]
    at hsplit
  exact hsplit.symm

/-- A repetition at the end makes no difference to what is left without it. -/
theorem dropEndWhile_append (c : Char) (s : List Char) (n : Nat) :
    dropEndWhile (· == c) (s ++ List.replicate n c)
      = dropEndWhile (· == c) s := by
  unfold dropEndWhile
  rw [List.reverse_append, List.reverse_replicate,
    List.dropWhile_append_of_pos (by simp)]

/-- A repetition at the end is dropped, and no more than that. -/
theorem dropEndWhile_of_getLast? {c : Char} {s : List Char}
    (h : s.getLast? ≠ some c) (n : Nat) :
    dropEndWhile (· == c) (s ++ List.replicate n c) = s := by
  have hlast : ∀ d ∈ s.getLast?, (d == c) = false := by
    intro d hd
    rw [beq_eq_false_iff_ne]
    rintro rfl
    exact h hd
  rw [dropEndWhile_append]
  simpa [dropEndWhile] using dropEndWhile_append_of_getLast? hlast []

/-- What is left without a repetition at the end does not end like it. -/
theorem getLast?_dropEndWhile (c : Char) (s : List Char) :
    (dropEndWhile (· == c) s).getLast? ≠ some c := by
  unfold dropEndWhile
  rw [List.getLast?_reverse]
  intro hhead
  have hkept := List.head?_dropWhile_not (· == c) s.reverse
  rw [hhead] at hkept
  simp at hkept

/-- Nothing is cut off what stands at the front of a text, if it neither begins
nor ends with a blank. -/
theorem trim_append {s : List Char} (hne : s ≠ [])
    (hhead : ∀ c ∈ s.head?, isBlank c = false)
    (hlast : ∀ c ∈ s.getLast?, isBlank c = false) (rest : List Char) :
    trim (s ++ rest) = s ++ trimEnd rest := by
  have hstart : trimStart (s ++ rest) = s ++ rest := by
    apply dropWhile_of_head?
    obtain ⟨c, s, rfl⟩ := List.exists_cons_of_ne_nil hne
    exact hhead
  unfold trim
  rw [hstart]
  exact dropEndWhile_append_of_getLast? hlast rest

/-- What is left without the blanks at its end begins a text. -/
theorem trimEnd_isPrefix (s : List Char) : trimEnd s <+: s := by
  unfold trimEnd dropEndWhile
  rw [← List.reverse_suffix, List.reverse_reverse]
  exact List.dropWhile_suffix _

/-- Nothing is cut off a text without blanks. -/
theorem trim_of_not_blank {s : List Char} (h : ∀ c ∈ s, isBlank c = false) :
    trim s = s := by
  by_cases hne : s = []
  · rw [hne]
    rfl
  · have hkept := trim_append hne (fun c hc => h c (List.mem_of_head? hc))
      (fun c hc => h c (List.mem_of_getLast? hc)) []
    simpa [trimEnd, dropEndWhile] using hkept

/-- Blanks around a text are cut off it, and nothing else is. -/
theorem trim_append_of_blank {lead s tail : List Char}
    (hlead : ∀ c ∈ lead, isBlank c = true) (hne : s ≠ [])
    (hhead : ∀ c ∈ s.head?, isBlank c = false)
    (hlast : ∀ c ∈ s.getLast?, isBlank c = false)
    (htail : ∀ c ∈ tail, isBlank c = true) :
    trim (lead ++ s ++ tail) = s := by
  have hstart : trimStart (lead ++ (s ++ tail)) = trimStart (s ++ tail) :=
    List.dropWhile_append_of_pos hlead
  have hend : trimEnd tail = [] := by
    unfold trimEnd dropEndWhile
    rw [List.reverse_eq_nil_iff, List.dropWhile_eq_nil_iff]
    exact fun c hc => htail c (List.mem_reverse.mp hc)
  have htrim : trim (lead ++ s ++ tail) = trim (s ++ tail) := by
    unfold trim
    rw [List.append_assoc, hstart]
  rw [htrim, trim_append hne hhead hlast, hend, List.append_nil]

/-- What is cut off a text are blanks around the rest of it. -/
theorem exists_eq_append_trim (s : List Char) :
    ∃ lead tail, s = lead ++ trim s ++ tail
      ∧ (∀ c ∈ lead, isBlank c = true) ∧ ∀ c ∈ tail, isBlank c = true := by
  let rest := (trimStart s).reverse
  have hblank : ∀ t : List Char, ∀ c ∈ t.takeWhile isBlank, isBlank c = true :=
    fun t => List.all_eq_true.mp List.all_takeWhile
  refine ⟨s.takeWhile isBlank, (rest.takeWhile isBlank).reverse, ?_, hblank s,
    fun c hc => hblank rest c (List.mem_reverse.mp hc)⟩
  have hend : trim s ++ (rest.takeWhile isBlank).reverse = trimStart s := by
    unfold trim trimEnd dropEndWhile
    rw [← List.reverse_append, List.takeWhile_append_dropWhile,
      List.reverse_reverse]
  rw [List.append_assoc, hend]
  exact List.takeWhile_append_dropWhile.symm

/-- A text is what stands before the repetition at its end exactly if it does
not end like it. -/
theorem dropEndWhile_eq_iff {c : Char} {s t : List Char}
    (ht : t.getLast? ≠ some c) :
    dropEndWhile (· == c) s = t ↔ ∃ n, s = t ++ List.replicate n c := by
  constructor
  · rintro rfl
    exact dropEndWhile_append_replicate c s
  · rintro ⟨n, rfl⟩
    exact dropEndWhile_of_getLast? ht n

/-- The end of a line takes a carriage return with it, if there is one. -/
theorem stripLineEnd_append (line : List Char) :
    ∃ n, line = stripLineEnd (line ++ ['\n']) ++ List.replicate n '\r' := by
  unfold stripLineEnd
  rw [List.reverse_append, List.reverse_singleton, List.singleton_append]
  split
  case h_1 before heq =>
    injection heq with _ heq
    refine ⟨1, ?_⟩
    rw [← List.reverse_reverse line, heq, List.reverse_cons]
    rfl
  case h_2 before _ heq =>
    injection heq with _ heq
    refine ⟨0, ?_⟩
    rw [← heq, List.reverse_reverse]
    exact (List.append_nil _).symm
  case h_3 hnone => exact absurd rfl (hnone _)

/-- A line keeps its last character, if that is no carriage return. -/
private theorem stripLineEnd_of_getLast? {line : List Char}
    (h : line.getLast? ≠ some '\r') : stripLineEnd (line ++ ['\n']) = line := by
  obtain ⟨n, hn⟩ := stripLineEnd_append line
  cases n with
  | zero => simpa using hn.symm
  | succ n =>
      rw [hn, List.replicate_succ', ← List.append_assoc] at h
      exact absurd List.getLast?_concat h

/-- A line that has been ended is the line, but for the carriage returns at its
end. -/
theorem dropEndWhile_stripLineEnd (line : List Char) :
    dropEndWhile (· == '\r') (stripLineEnd (line ++ ['\n']))
      = dropEndWhile (· == '\r') line := by
  obtain ⟨n, hn⟩ := stripLineEnd_append line
  conv => rhs; rw [hn, dropEndWhile_append]

-- ==================================================== the first line

/-- A text is one line that is not cut at its ends: it does not break, and
neither begins nor ends with a blank. -/
structure IsLine (s : List Char) : Prop where
  newline_notMem : '\n' ∉ s
  carriageReturn_notMem : '\r' ∉ s
  head_not_blank : ∀ c ∈ s.head?, isBlank c = false
  last_not_blank : ∀ c ∈ s.getLast?, isBlank c = false

instance (s : List Char) : Decidable (IsLine s) :=
  decidable_of_iff
    ('\n' ∉ s ∧ '\r' ∉ s ∧ s.head?.all (!isBlank ·) ∧ s.getLast?.all (!isBlank ·))
    (by
      simp only [Option.all_eq_true, Bool.not_eq_true']
      exact ⟨fun h => ⟨h.1, h.2.1, h.2.2.1, h.2.2.2⟩,
        fun h => ⟨h.newline_notMem, h.carriageReturn_notMem, h.head_not_blank,
          h.last_not_blank⟩⟩)

/-- A line is the first one of the text that it begins. -/
theorem IsLine.head?_lines {s rest more : List Char} (h : IsLine s)
    (hne : s ≠ []) (hrest : rest <+: '\n' :: more) :
    (lines (s ++ rest)).head? = some s := by
  rcases List.prefix_cons_iff.mp hrest with rfl | ⟨later, rfl, -⟩
  · have hstays : stripLineEnd s = s := by
      unfold stripLineEnd
      split
      case h_3 => rfl
      all_goals
        rename_i hreverse
        refine absurd ?_ h.newline_notMem
        rw [← List.mem_reverse, hreverse]
        exact List.mem_cons_self ..
    rw [List.append_nil]
    unfold lines
    rw [lineBlocks_of_not_mem hne h.newline_notMem]
    simp [hstays]
  · have hreturn : s.getLast? ≠ some '\r' :=
      fun hlast => h.carriageReturn_notMem (List.mem_of_getLast? hlast)
    rw [show s ++ '\n' :: later = (s ++ ['\n']) ++ later by simp,
      lines_append_line h.newline_notMem, stripLineEnd_of_getLast? hreturn]
    rfl

/-- It stays the first one when the text is trimmed. -/
theorem IsLine.head?_lines_trim {s : List Char} (h : IsLine s) (hne : s ≠ [])
    (rest : List Char) :
    (lines (trim (s ++ '\n' :: rest))).head? = some s := by
  rw [trim_append hne h.head_not_blank h.last_not_blank]
  exact h.head?_lines hne (trimEnd_isPrefix _)

-- ==================================================== frames

/-- What follows a lead. -/
theorem dropPrefix?_eq_some_iff {lead s rest : List Char} :
    dropPrefix? lead s = some rest ↔ s = lead ++ rest := by
  unfold dropPrefix?
  simp only [Option.ite_none_right_eq_some, List.isPrefixOf_iff_prefix,
    Option.some.injEq]
  constructor
  · rintro ⟨⟨tail, rfl⟩, rfl⟩
    rw [List.drop_left]
  · rintro rfl
    exact ⟨List.prefix_append .., List.drop_left⟩

/-- What stands before a tail. -/
theorem dropSuffix?_eq_some_iff {tail s before : List Char} :
    dropSuffix? tail s = some before ↔ s = before ++ tail := by
  unfold dropSuffix?
  simp only [Option.ite_none_right_eq_some, List.isSuffixOf_iff_suffix,
    Option.some.injEq]
  constructor
  · rintro ⟨⟨lead, rfl⟩, rfl⟩
    rw [List.length_append, Nat.add_sub_cancel, List.take_left]
  · rintro rfl
    refine ⟨List.suffix_append .., ?_⟩
    rw [List.length_append, Nat.add_sub_cancel, List.take_left]

/-- What stands between a lead and a tail. -/
theorem unframe?_eq_some_iff {lead tail s inner : List Char} :
    unframe? lead tail s = some inner ↔ s = lead ++ inner ++ tail := by
  unfold unframe?
  rw [Option.bind_eq_some_iff]
  constructor
  · rintro ⟨rest, hrest, hinner⟩
    rw [dropPrefix?_eq_some_iff] at hrest
    rw [dropSuffix?_eq_some_iff] at hinner
    rw [hrest, hinner, List.append_assoc]
  · rintro rfl
    refine ⟨inner ++ tail, ?_, dropSuffix?_eq_some_iff.mpr rfl⟩
    rw [dropPrefix?_eq_some_iff, List.append_assoc]

-- ==================================================== words

/-- A blank at the end of a text is no part of its words. -/
private theorem words_append_blank {c : Char} (hc : isBlank c = true)
    (s : List Char) : words (s ++ [c]) = words s := by
  induction s with
  | nil =>
      show words [c] = []
      rw [words, if_pos hc]
      rfl
  | cons d s ih =>
      show words (d :: (s ++ [c])) = words (d :: s)
      unfold words
      split
      · exact ih
      · cases s with
        | nil =>
            simp only [List.nil_append, if_pos hc]
            rw [words, if_pos hc, words]
        | cons e s =>
            simp only [List.cons_append] at ih ⊢
            rw [ih]

/-- Blanks at the end of a text are no part of its words. -/
theorem words_append_blanks {c : Char} (hc : isBlank c = true) (s : List Char)
    (n : Nat) : words (s ++ List.replicate n c) = words s := by
  induction n with
  | zero => rw [List.replicate_zero, List.append_nil]
  | succ n ih =>
      rw [List.replicate_succ', ← List.append_assoc, words_append_blank hc, ih]

/-- The words of a line do not tell whether its carriage returns were dropped
before. -/
theorem words_dropEndWhile (line : List Char) :
    words (dropEndWhile (· == '\r') line) = words line := by
  obtain ⟨n, hn⟩ := dropEndWhile_append_replicate '\r' line
  conv => rhs; rw [hn, words_append_blanks (by decide)]

/-- Nor does it matter for whether a line has anything but blanks. -/
theorem allBlank_dropEndWhile (line : List Char) :
    allBlank (dropEndWhile (· == '\r') line) = allBlank line := by
  obtain ⟨n, hn⟩ := dropEndWhile_append_replicate '\r' line
  conv => rhs; rw [hn]
  unfold allBlank
  have hblank : (List.replicate n '\r').all isBlank = true := by
    rw [List.all_eq_true]
    intro d hd
    rw [List.eq_of_mem_replicate hd]
    decide
  rw [List.all_append, hblank, Bool.and_true]

end HostWatch.Text
