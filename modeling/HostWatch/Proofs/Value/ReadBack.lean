/-
What is written of a value is read as the value.

The text of a value is scanned as tokens that are read as the document of the
value, at any depth and in any layout that puts nothing but blanks between the
parts (`exists_tokens`). The proof follows the value: its scalars are single
tokens, and lists and records are put together from what has been shown of
their items and fields.

Three things are asked of the value (`Storable`). Its whole numbers have 64
bits, it is not nested deeper than the reader goes, and the texts of its
doubles are read as those doubles, which is a matter of rounding and not of
the format.
-/
import HostWatch.Proofs.Decimal.Integer
import HostWatch.Proofs.Document.Reader
import HostWatch.Proofs.Document.Token
import Mathlib.Tactic.Choose

namespace HostWatch

-- ==================================================== whole numbers

namespace Document

/-- The digits of a number are written without leading zeros. -/
theorem canonicalWhole_toDigits (n : Nat) :
    canonicalWhole (Nat.toDigits 10 n) = true := by
  by_cases hn : n = 0
  · rw [hn]
    rfl
  · have hhead := Decimal.head?_toDigits hn
    unfold canonicalWhole
    split
    · rename_i h
      exact absurd h Nat.toDigits_ne_nil
    · rfl
    · rename_i c _ h
      rw [h] at hhead
      simpa using hhead

/-- A whole number is taken apart into a sign and digits. -/
theorem parts?_toString (i : Int) :
    parts? (toString i).toList
      = some { negative := decide (i < 0), whole := Nat.toDigits 10 i.natAbs
               isWhole := true } := by
  rw [Decimal.toList_toString]
  split
  case isTrue hi =>
    have habs : i.toNat = i.natAbs := by omega
    have hnegative : decide (i < 0) = false := by simpa using hi
    have hspan := Decimal.spanDigits_toDigits i.natAbs
    have hwhole := canonicalWhole_toDigits i.natAbs
    have hdigit := Decimal.isDigit_toDigits i.natAbs
    rw [habs, hnegative]
    generalize Nat.toDigits 10 i.natAbs = digits at hspan hwhole hdigit
    cases digits with
    | nil => cases hwhole
    | cons c rest =>
        -- a digit is no sign
        have hc : c ≠ '-' := by
          rintro rfl
          cases hdigit '-' (List.mem_cons_self ..)
        simp [parts?, hc, hspan, hwhole]
  case isFalse hi =>
    have habs : (-i).toNat = i.natAbs := by omega
    have hnegative : decide (i < 0) = true := by simpa using hi
    rw [habs, hnegative]
    simp [parts?, Decimal.spanDigits_toDigits, canonicalWhole_toDigits]

/-- A whole number of 64 bits is read back. -/
theorem ofNumber?_toString {i : Int} (hmin : Decimal.minSigned64 ≤ i)
    (hmax : i ≤ (Decimal.maxUnsigned64 : Int)) :
    ofNumber? .data (toString i).toList = some (.int i) := by
  have hsigned : (if decide (i < 0) = true then -(i.natAbs : Int)
      else (i.natAbs : Int)) = i := by
    simp only [decide_eq_true_eq]
    split <;> omega
  have hzero : (decide (i < 0) && i.natAbs == 0) = false := by
    simp
    omega
  unfold ofNumber?
  rw [parts?_toString, Option.map_some]
  simp only [Written.document, Decimal.readDigits?_toDigits, hzero, hsigned,
    if_pos (And.intro hmin hmax)]
  rfl

end Document
namespace Value

open Document

-- ==================================================== what can be stored

/-- The text of a double is a number, which is read as the double. -/
def FloatReadsBack (x : Float) : Prop :=
  ∃ c more, (Decimal.storedText x).toList = c :: more
    ∧ fromIdle c = some (.number [c], [])
    ∧ (∀ d ∈ more, isNumeric d = true)
    ∧ ofNumber? .data (c :: more) = some (.float x)

/-- A value is nested at most `n` deep, and its numbers are such that their
texts denote them. -/
inductive Storable : Nat → Value → Prop
  | null {n : Nat} : Storable n .null
  | bool {n : Nat} (b : Bool) : Storable n (.bool b)
  | int {n : Nat} {i : Int} (hmin : Decimal.minSigned64 ≤ i)
      (hmax : i ≤ (Decimal.maxUnsigned64 : Int)) : Storable n (.int i)
  | float {n : Nat} {x : Float} (h : FloatReadsBack x) : Storable n (.float x)
  | text {n : Nat} (s : String) : Storable n (.text s)
  | list {n : Nat} {items : List Value} (h : ∀ v ∈ items, Storable n v) :
      Storable (n + 1) (.list items)
  | record {n : Nat} {fields : List (String × Value)}
      (h : ∀ field ∈ fields, Storable n field.2) :
      Storable (n + 1) (.record fields)

namespace Storable

variable {n : Nat}

/-- What is nested less deep can be stored where there is more room. -/
theorem mono {v : Value} (h : v.Storable n) :
    ∀ {m : Nat}, n ≤ m → v.Storable m := by
  induction h with
  | null => exact fun _ => .null
  | bool b => exact fun _ => .bool b
  | int hmin hmax => exact fun _ => .int hmin hmax
  | float h => exact fun _ => .float h
  | text s => exact fun _ => .text s
  | list _ ih =>
      rintro (_ | m) hm
      · omega
      · exact .list fun v hv => ih v hv (by omega)
  | record _ ih =>
      rintro (_ | m) hm
      · omega
      · exact .record fun field hfield => ih field hfield (by omega)

theorem ofText? (t : Option String) : (Value.ofText? t).Storable n := by
  cases t with
  | none => exact .null
  | some s => exact .text s

theorem ofFields {fields : Fields}
    (h : ∀ name v, fields.get? name = some v → v.Storable n) :
    (Value.ofFields fields).Storable (n + 1) :=
  .record fun field hfield =>
    h field.1 field.2 ((SortedMap.mem_entries_iff _ _ _).mp hfield)

theorem ofPairs {fields : List (String × Value)}
    (h : ∀ field ∈ fields, field.2.Storable n) :
    (Value.ofPairs fields).Storable (n + 1) :=
  .ofFields fun name v hget => h (name, v) (SortedMap.mem_of_get?_ofList hget)

end Storable

-- ==================================================== the tokens of a value

theorem writeItems_eq_map (layout : Layout) (depth : Nat) (items : List Value) :
    writeItems layout depth items = items.map (write layout depth) := by
  induction items with
  | nil => rfl
  | cons v rest ih => rw [writeItems, ih, List.map_cons]

theorem writeFields_eq_map (layout : Layout) (depth : Nat)
    (fields : List (String × Value)) :
    writeFields layout depth fields = fields.map fun field =>
      quoted field.1 ++ layout.afterName ++ write layout depth field.2 := by
  induction fields with
  | nil => rfl
  | cons field rest ih => rw [writeFields, ih, List.map_cons]

/-- A whole number is one token. -/
private theorem scansAs_int (i : Int) :
    ScansAs .data (toString i).toList [.number (toString i).toList] := by
  have hchars : ∀ c ∈ (toString i).toList,
      fromIdle c = some (.number [c], []) ∧ isNumeric c = true := by
    intro c hc
    rcases Decimal.mem_toString hc with rfl | hdigit
    · exact ⟨rfl, rfl⟩
    · exact fromIdle_of_isDigit hdigit
  have hread := Decimal.readInteger?_toString i
  cases htext : (toString i).toList with
  | nil =>
      rw [htext] at hread
      cases hread
  | cons c more =>
      rw [htext, List.forall_mem_cons] at hchars
      exact scansAs_number hchars.1.1 fun d hd => (hchars.2 d hd).2

private theorem scansAs_null :
    ScansAs .data "null".toList [.word "null".toList] :=
  show ScansAs .data ['n', 'u', 'l', 'l'] [.word ['n', 'u', 'l', 'l']] from
    scansAs_word rfl (List.all_eq_true.mp rfl)

private theorem scansAs_bool (b : Bool) :
    ScansAs .data (if b then "true" else "false").toList
      [.word (if b then "true" else "false").toList] := by
  cases b with
  | false =>
      show ScansAs .data ['f', 'a', 'l', 's', 'e']
        [.word ['f', 'a', 'l', 's', 'e']]
      exact scansAs_word rfl (List.all_eq_true.mp rfl)
  | true =>
      show ScansAs .data ['t', 'r', 'u', 'e'] [.word ['t', 'r', 'u', 'e']]
      exact scansAs_word rfl (List.all_eq_true.mp rfl)

/-- The text of a value has tokens that are read as its document. -/
theorem exists_tokens {n : Nat} {v : Value} (h : v.Storable n) :
    ∃ tokens, ReadsAs n tokens (.ofValue v)
      ∧ ∀ layout : Layout, layout.IsBlank → ∀ depth,
        ScansAs .data (write layout depth v).toList tokens := by
  induction h with
  | null => exact ⟨_, readsAs_null _, fun _ _ _ => scansAs_null⟩
  | bool b => exact ⟨_, readsAs_bool _ b, fun _ _ _ => scansAs_bool b⟩
  | @int _ i hmin hmax =>
      exact ⟨_, readsAs_number _ (ofNumber?_toString hmin hmax),
        fun _ _ _ => scansAs_int i⟩
  | @float _ x h =>
      obtain ⟨c, more, htext, hfirst, hmore, hread⟩ := h
      refine ⟨_, readsAs_number _ hread, fun _ _ _ => ?_⟩
      rw [write, htext]
      exact scansAs_number hfirst hmore
  | text s =>
      refine ⟨_, readsAs_text _ s, fun _ _ _ => ?_⟩
      rw [write, ← List.append_nil (quoted s).toList]
      exact scansAs_nil.quoted_append s
  | @list n items _ ih =>
      choose! tokens hreads hscans using ih
      have hopening : "[".toList = ['['] := rfl
      have hclosing : "]".toList = [']'] := rfl
      rw [ofValue, ofItems_eq_map]
      refine ⟨_, readsAs_list hreads, fun layout hlayout depth => ?_⟩
      rw [write, writeItems_eq_map]
      exact scansAs_bracketed hlayout depth hopening hclosing rfl rfl ⟨rfl, rfl⟩
        fun v hv => hscans v hv layout hlayout (depth + 1)
  | @record n fields _ ih =>
      choose! tokens hreads hscans using ih
      have hopening : "\x7b".toList = ['\x7b'] := rfl
      have hclosing : "\x7d".toList = ['\x7d'] := rfl
      rw [ofValue, ofFields_eq_map]
      refine ⟨_, readsAs_record hreads, fun layout hlayout depth => ?_⟩
      rw [write, writeFields_eq_map]
      refine scansAs_bracketed hlayout depth hopening hclosing rfl rfl
        ⟨rfl, rfl⟩ fun field hfield => ?_
      obtain ⟨blanks, hname, hblanks⟩ := hlayout.afterName
      have hvalue := hscans field hfield layout hlayout (depth + 1)
      rw [String.toList_append, String.toList_append, hname, List.append_assoc]
      exact .quoted_append _ (.mark_cons rfl (hvalue.blanks_append hblanks))

-- ==================================================== the main statement

/-- In the layout of files there is one item a line. -/
theorem Layout.isBlank_pretty : Layout.pretty.IsBlank where
  lineBreak := by
    intro depth c hc
    unfold Layout.pretty at hc
    simp only [String.toList_append, String.toList_ofList,
      List.mem_append] at hc
    rcases hc with hc | hc
    · rw [List.mem_singleton.mp hc]
      rfl
    · rw [List.eq_of_mem_replicate hc]
      rfl
  afterName := ⟨[' '], rfl, List.all_eq_true.mp rfl⟩

/-- What is written of a value is read as its document. -/
theorem read?_pretty {n : Nat} {v : Value} (h : v.Storable n)
    (hn : n ≤ depthLimit .data) :
    Document.read? .data v.pretty = some (.ofValue v) := by
  obtain ⟨tokens, hreads, hscans⟩ := exists_tokens h
  refine read?_of_readsAs ?_ hn hreads
  have hscan := hscans _ Layout.isBlank_pretty 0 [] fun c hc => (by cases hc)
  rw [List.append_nil] at hscan
  refine hscan.trans ?_
  show some (tokens ++ []) = _
  rw [List.append_nil]

end Value

end HostWatch
