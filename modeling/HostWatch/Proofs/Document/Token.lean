/-
The tokens of what is written.

A text is scanned one character at a time, and where a number or a word
ends is known only from what comes after it. So what can be said of a part
of a text is what it is scanned as in front of anything that does not go on
with it (`ScansAs`). Parts that are laid out side by side are scanned one by
one, since there is a comma, a blank or a bracket between them
(`Value.scansAs_bracketed`).

A quoted text needs nothing of what comes after it, and gives back the text
that it was written for, whatever characters that has (`scan_quoted`).
-/
import HostWatch.Document.Token
import HostWatch.Value.Writer

namespace HostWatch

namespace Document

variable {dialect : Dialect}

-- ==================================================== single characters

/-- A character that completes no token is scanned by itself. -/
private theorem scan_silent {state next : Scan} {c : Char} {rest : List Char}
    (h : scanChar dialect state c = some (next, [])) :
    scanFrom dialect state (c :: rest) = scanFrom dialect next rest := by
  rw [scanFrom, h, Option.bind_some]
  exact congrFun Option.map_id_fun' _

/-- Blanks between tokens are passed over. -/
theorem scan_blanks {blanks rest : List Char}
    (h : ∀ c ∈ blanks, isSpace c = true) :
    scanFrom dialect .idle (blanks ++ rest) = scanFrom dialect .idle rest := by
  induction blanks with
  | nil => rfl
  | cons c more ih =>
      rw [List.forall_mem_cons] at h
      have hc : scanChar dialect .idle c = some (.idle, []) := by
        unfold scanChar fromIdle
        rw [if_pos h.1]
      rw [List.cons_append, scan_silent hc, ih h.2]

-- ==================================================== quoted texts

/-- A hexadecimal digit is read as what it is written for. -/
private theorem hexValue?_hexDigit :
    ∀ n < 16, hexValue? (Value.hexDigit n) = some n := by
  decide

/-- A backslash and a letter are scanned as what they stand for. -/
private theorem scan_escape {letter c : Char} {chars rest : List Char}
    (h : scanChar dialect (.escape chars none false) letter
      = some (.text (c :: chars) none false, [])) :
    scanFrom dialect (.text chars none false) ('\\' :: letter :: rest)
      = scanFrom dialect (.text (c :: chars) none false) rest := by
  have hbackslash : scanChar dialect (.text chars none false) '\\'
      = some (.escape chars none false, []) := rfl
  rw [scan_silent hbackslash, scan_silent h]

/-- A number below 32 is no half of a character. -/
private theorem withUnit_control {c : Char} (hc : c.toNat < 32)
    (chars : List Char) :
    withUnit dialect chars none false c.toNat
      = some (.text (c :: chars) none false) := by
  have hfirst : (0xD800 ≤ c.toNat && c.toNat ≤ 0xDBFF : Bool) = false := by
    simp
    omega
  have hsecond : (0xDC00 ≤ c.toNat && c.toNat ≤ 0xDFFF : Bool) = false := by
    simp
    omega
  unfold withUnit
  simp [hfirst, hsecond]

/-- A backslash and a number of two digits are scanned as the character with
that number. -/
private theorem scan_unit {c : Char} (hc : c.toNat < 32)
    (chars rest : List Char) :
    scanFrom dialect (.text chars none false)
        ('\\' :: 'u' :: '0' :: '0' :: Value.hexDigit (c.toNat / 16)
          :: Value.hexDigit (c.toNat % 16) :: rest)
      = scanFrom dialect (.text (c :: chars) none false) rest := by
  have hbackslash : scanChar dialect (.text chars none false) '\\'
      = some (.escape chars none false, []) := rfl
  have hu : scanChar dialect (.escape chars none false) 'u'
      = some (.unit chars none false 0 0, []) := rfl
  have hzero : scanChar dialect (.unit chars none false 0 0) '0'
      = some (.unit chars none false 1 0, []) := rfl
  have hzero' : scanChar dialect (.unit chars none false 1 0) '0'
      = some (.unit chars none false 2 0, []) := rfl
  have hhigh : scanChar dialect (.unit chars none false 2 0)
      (Value.hexDigit (c.toNat / 16))
      = some (.unit chars none false 3 (c.toNat / 16), []) := by
    rw [scanChar, hexValue?_hexDigit _ (by omega)]
    simp
  have hlow : scanChar dialect (.unit chars none false 3 (c.toNat / 16))
      (Value.hexDigit (c.toNat % 16))
      = some (.text (c :: chars) none false, []) := by
    have hvalue : c.toNat / 16 * 16 + c.toNat % 16 = c.toNat := by omega
    rw [scanChar, hexValue?_hexDigit _ (by omega), Option.bind_some, hvalue,
      if_neg (by omega), withUnit_control hc]
    rfl
  rw [scan_silent hbackslash, scan_silent hu, scan_silent hzero,
    scan_silent hzero', scan_silent hhigh, scan_silent hlow]

/-- A character is scanned as itself, whether it is escaped or not. -/
private theorem scan_escapeChar (c : Char) (chars rest : List Char) :
    scanFrom dialect (.text chars none false) (Value.escapeChar c ++ rest)
      = scanFrom dialect (.text (c :: chars) none false) rest := by
  unfold Value.escapeChar
  split
  case isTrue hc =>
    subst hc
    exact scan_escape rfl
  case isFalse hquote =>
  split
  case isTrue hc =>
    subst hc
    exact scan_escape rfl
  case isFalse hbackslash =>
  split
  case isTrue hc =>
    subst hc
    exact scan_escape rfl
  case isFalse =>
  split
  case isTrue hc =>
    subst hc
    exact scan_escape rfl
  case isFalse =>
  split
  case isTrue hc =>
    subst hc
    exact scan_escape rfl
  case isFalse =>
  split
  case isTrue hc =>
    obtain rfl : c = '\x08' := Char.toNat_inj.mp hc
    exact scan_escape rfl
  case isFalse =>
  split
  case isTrue hc =>
    obtain rfl : c = '\x0c' := Char.toNat_inj.mp hc
    exact scan_escape rfl
  case isFalse =>
  split
  case isTrue hc => exact scan_unit hc chars rest
  case isFalse hc =>
    refine scan_silent ?_
    unfold scanChar
    simp [hquote, hbackslash, hc]

/-- A quoted text is one token. -/
theorem scan_quoted (s : String) (rest : List Char) :
    scanFrom dialect .idle ((Value.quoted s).toList ++ rest)
      = (scanFrom dialect .idle rest).map (.text (some s) :: ·) := by
  have hchars : ∀ text chars rest : List Char,
      scanFrom dialect (.text chars none false)
          (text.flatMap Value.escapeChar ++ rest)
        = scanFrom dialect (.text (text.reverse ++ chars) none false) rest := by
    intro text
    induction text with
    | nil => intro chars rest; rfl
    | cons c more ih =>
        intro chars rest
        rw [List.flatMap_cons, List.append_assoc, scan_escapeChar, ih,
          List.reverse_cons, List.append_assoc]
        rfl
  have hopen : scanChar dialect .idle '"'
      = some (.text [] none false, []) := rfl
  unfold Value.quoted
  rw [String.toList_ofList, List.append_assoc, List.cons_append,
    scan_silent hopen, hchars, List.append_nil]
  show (scanChar dialect _ '"').bind _ = _
  unfold scanChar
  simp

-- ==================================================== parts of a text

/-- A text does not go on with a number or a word that stands before it. -/
def Apart (rest : List Char) : Prop :=
  ∀ c ∈ rest.head?, isNumeric c = false ∧ isLetter c = false

/-- A part of a text is scanned as some tokens, in front of anything that does
not go on with it. -/
def ScansAs (dialect : Dialect) (part : List Char) (tokens : List Token) :
    Prop :=
  ∀ rest, Apart rest → scanFrom dialect .idle (part ++ rest)
    = (scanFrom dialect .idle rest).map (tokens ++ ·)

theorem apart_cons {c : Char} {rest : List Char}
    (hnumeric : isNumeric c = false) (hletter : isLetter c = false) : Apart (c :: rest) := by
  rintro _ ⟨⟩
  exact ⟨hnumeric, hletter⟩

theorem apart_blanks {blanks rest : List Char}
    (h : ∀ c ∈ blanks, isSpace c = true) (hrest : Apart rest) :
    Apart (blanks ++ rest) := by
  cases blanks with
  | nil => exact hrest
  | cons c more =>
      have hc := h c (List.mem_cons_self ..)
      simp only [isSpace, Bool.or_eq_true, decide_eq_true_eq] at hc
      rcases hc with ((rfl | rfl) | rfl) | rfl <;> exact apart_cons rfl rfl

-- ==================================================== numbers and words

/-- What begins like a number or a word and goes on like it is one token, which
ends where the text does not go on with it. -/
private theorem scansAs_run {state : List Char → Scan}
    {token : List Char → Token} {c : Char} {more : List Char}
    (hfirst : fromIdle c = some (state [c], []))
    (hmore : ∀ d ∈ more, ∀ chars, scanChar dialect (state chars) d
      = some (state (d :: chars), []))
    (hlast : ∀ chars, scanFrom dialect (state chars) []
      = some [token chars.reverse])
    (hnext : ∀ chars d, isNumeric d = false → isLetter d = false →
      scanChar dialect (state chars) d = (fromIdle d).map fun found =>
        (found.1, token chars.reverse :: found.2)) :
    ScansAs dialect (c :: more) [token (c :: more)] := by
  intro rest hrest
  have hrun : ∀ chars, scanFrom dialect (state chars) (more ++ rest)
      = scanFrom dialect (state (more.reverse ++ chars)) rest := by
    induction more with
    | nil => intro chars; rfl
    | cons d more ih =>
        intro chars
        rw [List.forall_mem_cons] at hmore
        rw [List.cons_append, scan_silent (hmore.1 chars), ih hmore.2,
          List.reverse_cons, List.append_assoc]
        rfl
  have hend : ∀ chars, scanFrom dialect (state chars) rest
      = (scanFrom dialect .idle rest).map (token chars.reverse :: ·) := by
    intro chars
    cases rest with
    | nil => rw [hlast]; rfl
    | cons d later =>
        obtain ⟨hnumeric, hletter⟩ := hrest d rfl
        rw [scanFrom, scanFrom, hnext chars d hnumeric hletter, scanChar]
        cases fromIdle d with
        | none => rfl
        | some found => simp [Function.comp_def]
  have hopen : scanChar dialect .idle c = some (state [c], []) := hfirst
  rw [List.cons_append, scan_silent hopen, hrun, hend, List.reverse_append,
    List.reverse_reverse]
  rfl

/-- A number is one token. -/
theorem scansAs_number {c : Char} {more : List Char}
    (hfirst : fromIdle c = some (.number [c], []))
    (hmore : ∀ d ∈ more, isNumeric d = true) :
    ScansAs dialect (c :: more) [.number (c :: more)] := by
  refine scansAs_run hfirst ?_ (fun _ => rfl) ?_
  · intro d hd chars
    exact if_pos (hmore d hd)
  · intro chars d hnumeric _
    exact if_neg (by rw [hnumeric]; exact Bool.false_ne_true)

/-- A number may begin with a digit. -/
theorem fromIdle_of_isDigit {c : Char} (h : c.isDigit = true) :
    fromIdle c = some (.number [c], []) ∧ isNumeric c = true := by
  have hrange : '0' ≤ c ∧ c ≤ '9' := by
    simpa [Char.isDigit, Char.le_def] using h
  have hne : ∀ d : Char, d.isDigit = false → c ≠ d := by
    rintro d hd rfl
    rw [h] at hd
    cases hd
  constructor
  · unfold fromIdle isSpace
    simp [hne, hrange]
  · unfold isNumeric
    simp [hrange]

/-- A word is one token. -/
theorem scansAs_word {c : Char} {more : List Char}
    (hfirst : fromIdle c = some (.word [c], []))
    (hmore : ∀ d ∈ more, isLetter d = true) :
    ScansAs dialect (c :: more) [.word (c :: more)] := by
  refine scansAs_run hfirst ?_ (fun _ => rfl) ?_
  · intro d hd chars
    exact if_pos (hmore d hd)
  · intro chars d _ hletter
    exact if_neg (by rw [hletter]; exact Bool.false_ne_true)

-- ==================================================== lists and records

/-- Parts of a text are scanned one after the other, where the second one does
not go on with the first one. -/
theorem ScansAs.append {part part' : List Char} {tokens tokens' : List Token}
    (h : ScansAs dialect part tokens) (h' : ScansAs dialect part' tokens')
    (hpart : ∀ rest, Apart rest → Apart (part' ++ rest)) :
    ScansAs dialect (part ++ part') (tokens ++ tokens') := by
  intro rest hrest
  rw [List.append_assoc, h _ (hpart rest hrest), h' rest hrest, Option.map_map]
  simp [Function.comp_def]

/-- Nothing has no tokens. -/
theorem scansAs_nil : ScansAs dialect [] [] :=
  fun _ _ => (congrFun Option.map_id_fun' _).symm

/-- A comma, a colon or a bracket is one token. -/
theorem ScansAs.mark_cons {c : Char} {part : List Char} {tokens : List Token}
    (hc : fromIdle c = some (.idle, [.mark c]))
    (h : ScansAs dialect part tokens) :
    ScansAs dialect (c :: part) (.mark c :: tokens) := by
  intro rest hrest
  rw [List.cons_append, scanFrom, scanChar, hc, Option.bind_some]
  simp [h rest hrest, Function.comp_def]

/-- A quoted text is one token. -/
theorem ScansAs.quoted_append (s : String) {part : List Char}
    {tokens : List Token} (h : ScansAs dialect part tokens) :
    ScansAs dialect ((Value.quoted s).toList ++ part)
      (.text (some s) :: tokens) := by
  intro rest hrest
  rw [List.append_assoc, scan_quoted, h rest hrest, Option.map_map]
  simp [Function.comp_def]

/-- Blanks in front of a part of a text are passed over. -/
theorem ScansAs.blanks_append {blanks part : List Char} {tokens : List Token}
    (hblanks : ∀ c ∈ blanks, isSpace c = true)
    (h : ScansAs dialect part tokens) :
    ScansAs dialect (blanks ++ part) tokens := by
  intro rest hrest
  rw [List.append_assoc, scan_blanks hblanks, h rest hrest]

/-- What is laid out with commas in between is scanned part by part. -/
theorem scansAs_intercalate {α : Type} {part : α → List Char}
    {tokens : α → List Token} {items : List α}
    (h : ∀ a ∈ items, ScansAs dialect (part a) (tokens a)) :
    ScansAs dialect ([','].intercalate (items.map part))
      ([.mark ','].intercalate (items.map tokens)) := by
  induction items with
  | nil => exact scansAs_nil
  | cons a more ih =>
      rw [List.forall_mem_cons] at h
      cases more with
      | nil =>
          simp only [List.map_cons, List.map_nil, List.intercalate_singleton]
          exact h.1
      | cons b later =>
          simp only [List.map_cons, List.intercalate_cons_cons,
            List.append_assoc]
          exact h.1.append (.mark_cons rfl (ih h.2)) fun _ _ =>
            apart_cons rfl rfl

end Document

namespace Value

open Document

/-- There are nothing but blanks between the parts of a written value. -/
structure Layout.IsBlank (layout : Layout) : Prop where
  lineBreak : ∀ depth, ∀ c ∈ (layout.lineBreak depth).toList, isSpace c = true
  afterName : ∃ blanks, layout.afterName.toList = ':' :: blanks
    ∧ ∀ c ∈ blanks, isSpace c = true

/-- What is put between brackets is scanned item by item. -/
theorem scansAs_bracketed {dialect : Dialect} {layout : Layout}
    (hlayout : layout.IsBlank) (depth : Nat) {opening closing : String}
    {first last : Char} (hopening : opening.toList = [first])
    (hclosing : closing.toList = [last])
    (hfirst : fromIdle first = some (.idle, [.mark first]))
    (hlast : fromIdle last = some (.idle, [.mark last]))
    (hapart : isNumeric last = false ∧ isLetter last = false)
    {α : Type} {text : α → String} {tokens : α → List Token} {items : List α}
    (h : ∀ a ∈ items, ScansAs dialect (text a).toList (tokens a)) :
    ScansAs dialect
      (bracketed layout depth opening closing (items.map text)).toList
      (.mark first :: ([.mark ','].intercalate (items.map tokens)
        ++ [.mark last])) := by
  have hclose : ScansAs dialect [last] [.mark last] :=
    .mark_cons hlast scansAs_nil
  cases items with
  | nil =>
      have htext : (bracketed layout depth opening closing []).toList
          = [first, last] := by
        simp [bracketed, hopening, hclosing]
      rw [List.map_nil, htext]
      exact .mark_cons hfirst hclose
  | cons a more =>
      have hitems : ScansAs dialect
          ([','].intercalate ((a :: more).map fun item =>
            (layout.lineBreak (depth + 1)).toList ++ (text item).toList))
          ([.mark ','].intercalate ((a :: more).map tokens)) :=
        scansAs_intercalate fun item hitem =>
          .blanks_append (hlayout.lineBreak _) (h item hitem)
      have hend : ∀ rest, Apart rest →
          Apart (((layout.lineBreak depth).toList ++ [last]) ++ rest) := by
        intro rest _
        rw [List.append_assoc]
        exact apart_blanks (hlayout.lineBreak _) (apart_cons hapart.1 hapart.2)
      have htext : (bracketed layout depth opening closing
          ((a :: more).map text)).toList
          = first :: ([','].intercalate ((a :: more).map fun item =>
              (layout.lineBreak (depth + 1)).toList ++ (text item).toList)
            ++ ((layout.lineBreak depth).toList ++ [last])) := by
        unfold bracketed
        rw [if_neg (by simp)]
        simp only [String.toList_append, String.toList_intercalate,
          List.map_map, hopening, hclosing, List.append_assoc,
          Function.comp_def]
        rfl
      rw [htext]
      exact .mark_cons hfirst (hitems.append
        (.blanks_append (hlayout.lineBreak _) hclose) hend)

end Value

end HostWatch
