/-
Whole numbers, written and read back.

The digits that a number is written with are those that the reader takes, one
after the other (`readFrom?_eq`), and the reader cannot mistake the first one
for a sign. So a written number is read back whatever its size
(`readInteger?_toString`), and as one of 64 bits if it is one
(`readSigned64?_toString`). What a number is written with is the minus sign and
digits (`mem_toString`), which is all that a format has to know in which
numbers stand between separators.

The other way round a number may have been written in many ways. Which texts
are read as a number without a sign, and as which one, is `Unsigned`
(`readUnsigned?_eq_some_iff`).
-/
import HostWatch.Decimal.Reader
import Mathlib.Data.List.TakeDrop
import Mathlib.Data.List.TakeWhile

namespace HostWatch.Decimal

-- ==================================================== digits

/-- An ASCII digit has the value that it is written for. -/
theorem digit?_of_isDigit {c : Char} (h : c.isDigit = true) :
    digit? c = some (c.toNat - '0'.toNat) := by
  unfold digit?
  rw [if_pos]
  simpa [Char.isDigit, Char.le_def] using h

/-- Digits are read as the number that they denote. -/
private theorem readFrom?_eq {digits : List Char}
    (h : ∀ c ∈ digits, c.isDigit = true) :
    ∀ acc, readFrom? acc digits = some (Nat.ofDigitChars 10 digits acc) := by
  induction digits with
  | nil => intro acc; rw [readFrom?, Nat.ofDigitChars_nil]
  | cons c rest ih =>
      intro acc
      have hrest := ih fun d hd => h d (List.mem_cons_of_mem _ hd)
      rw [readFrom?, digit?_of_isDigit (h c (List.mem_cons_self ..)),
        Option.bind_some, hrest, Nat.ofDigitChars_cons, Nat.mul_comm]

/-- Only an ASCII digit has a value. -/
private theorem isDigit_of_digit? {c : Char} {d : Nat} (h : digit? c = some d) :
    c.isDigit = true := by
  unfold digit? at h
  split at h
  case isTrue hrange => simpa [Char.isDigit, Char.le_def] using hrange
  case isFalse => cases h

/-- Nothing but digits is read as a number. -/
private theorem isDigit_of_readFrom? {s : List Char} :
    ∀ {acc n : Nat}, readFrom? acc s = some n → ∀ c ∈ s, c.isDigit = true := by
  induction s with
  | nil => intro _ _ _ c hc; cases hc
  | cons c rest ih =>
      intro acc n h
      rw [readFrom?, Option.bind_eq_some_iff] at h
      obtain ⟨d, hd, hrest⟩ := h
      exact List.forall_mem_cons.mpr ⟨isDigit_of_digit? hd, ih hrest⟩

/-- What is read as a number is at least one digit and nothing else, and the
number is the one that the digits denote. -/
theorem readDigits?_eq_some_iff {s : List Char} {n : Nat} :
    readDigits? s = some n ↔ s ≠ [] ∧ (∀ c ∈ s, c.isDigit = true)
      ∧ Nat.ofDigitChars 10 s 0 = n := by
  unfold readDigits?
  rw [Option.ite_none_left_eq_some, List.isEmpty_iff]
  refine and_congr_right fun _ => ⟨fun h => ?_, fun ⟨hdigits, hn⟩ => ?_⟩
  · have hdigits := isDigit_of_readFrom? h
    rw [readFrom?_eq hdigits] at h
    exact ⟨hdigits, Option.some.inj h⟩
  · rw [readFrom?_eq hdigits, hn]

/-- The digits of a number are such. -/
theorem isDigit_toDigits (n : Nat) :
    ∀ c ∈ Nat.toDigits 10 n, c.isDigit = true :=
  fun _ hc => Nat.isDigit_of_mem_toDigits (by decide) (by decide) hc

/-- The digits of a number are read as the number. -/
theorem readDigits?_toDigits (n : Nat) :
    readDigits? (Nat.toDigits 10 n) = some n :=
  readDigits?_eq_some_iff.mpr
    ⟨Nat.toDigits_ne_nil, isDigit_toDigits n, Nat.ofDigitChars_ten_toDigits⟩

/-- The digits of a number begin with a zero for the number 0 only. -/
theorem head?_toDigits {n : Nat} (hn : n ≠ 0) :
    (Nat.toDigits 10 n).head? ≠ some '0' := by
  induction n using Nat.strongRecOn with
  | _ n ih =>
      rw [Nat.toDigits_eq_if (by decide)]
      split
      case isTrue hlt =>
        have hdigit : ∀ d < 10, d ≠ 0 → Nat.digitChar d ≠ '0' := by decide
        simpa using hdigit n hlt hn
      case isFalse hge =>
        have hhead := ih (n / 10) (by omega) (by omega)
        cases hdigits : Nat.toDigits 10 (n / 10) with
        | nil => exact absurd hdigits Nat.toDigits_ne_nil
        | cons c rest =>
            rw [hdigits] at hhead
            simpa using hhead

/-- The digits of a number are taken as a whole. -/
theorem spanDigits_toDigits (n : Nat) :
    spanDigits (Nat.toDigits 10 n) = (Nat.toDigits 10 n, []) := by
  have hall : ∀ c ∈ Nat.toDigits 10 n, (digit? c).isSome = true := by
    intro c hc
    rw [digit?_of_isDigit (isDigit_toDigits n c hc)]
    rfl
  unfold spanDigits
  rw [List.span_eq_takeWhile_dropWhile, List.dropWhile_eq_nil_iff.mpr hall,
    List.takeWhile_eq_self_iff.mpr hall]

-- ==================================================== signs

/-- A number is written with its digits, behind a minus sign if it is
negative. -/
theorem toList_toString (i : Int) :
    (toString i).toList = if 0 ≤ i then Nat.toDigits 10 i.toNat
      else '-' :: Nat.toDigits 10 (-i).toNat := by
  rw [Int.toString_eq_repr, Int.repr_eq_if]
  split
  · rw [Nat.toList_repr]
  · rw [String.toList_append, Nat.toList_repr]
    rfl

/-- A number is written with the minus sign and digits. -/
theorem mem_toString {i : Int} {c : Char} (h : c ∈ (toString i).toList) :
    c = '-' ∨ c.isDigit = true := by
  rw [toList_toString] at h
  split at h
  · exact Or.inr (isDigit_toDigits _ c h)
  · exact (List.mem_cons.mp h).imp id (isDigit_toDigits _ c)

/-- A written number is read back. -/
theorem readInteger?_toString (i : Int) :
    readInteger? (toString i).toList = some i := by
  rw [toList_toString]
  split
  case isTrue hi =>
    have hread := readDigits?_toDigits i.toNat
    have hdigit := isDigit_toDigits i.toNat
    generalize Nat.toDigits 10 i.toNat = digits at hread hdigit
    cases digits with
    | nil => cases hread
    | cons c rest =>
        -- a digit is no sign
        have hc := hdigit c (List.mem_cons_self ..)
        unfold readInteger?
        split
        case h_1 heq =>
          injection heq with heq
          rw [heq] at hc
          cases hc
        case h_2 heq =>
          injection heq with heq
          rw [heq] at hc
          cases hc
        case h_3 =>
          rw [hread]
          exact congrArg some (Int.toNat_of_nonneg hi)
  case isFalse hi =>
    have hneg : -((-i).toNat : Int) = i := by omega
    rw [readInteger?, readDigits?_toDigits]
    exact congrArg some hneg

/-- A written number of 64 bits is read back as one. -/
theorem readSigned64?_toString {i : Int} (hmin : minSigned64 ≤ i)
    (hmax : i ≤ maxSigned64) : readSigned64? (toString i).toList = some i := by
  unfold readSigned64? readSigned?
  rw [readInteger?_toString, Option.filter_some, if_pos]
  simp [hmin, hmax]

-- ==================================================== without a minus sign

/-- A text is a number in decimal notation: at least one ASCII digit, behind a
plus sign if one is wanted. -/
inductive Unsigned : List Char → Nat → Prop
  | plain {digits : List Char} (hne : digits ≠ [])
      (hdigits : ∀ c ∈ digits, c.isDigit = true) :
      Unsigned digits (Nat.ofDigitChars 10 digits 0)
  | plus {digits : List Char} (hne : digits ≠ [])
      (hdigits : ∀ c ∈ digits, c.isDigit = true) :
      Unsigned ('+' :: digits) (Nat.ofDigitChars 10 digits 0)

namespace Unsigned

variable {s : List Char} {n : Nat}

theorem ne_nil (h : Unsigned s n) : s ≠ [] := by
  cases h with
  | plain hne => exact hne
  | plus => exact List.cons_ne_nil _ _

/-- A number is written with the plus sign and digits. -/
theorem eq_plus_or_isDigit (h : Unsigned s n) :
    ∀ c ∈ s, c = '+' ∨ c.isDigit = true := by
  cases h with
  | plain _ hdigits => exact fun c hc => Or.inr (hdigits c hc)
  | plus _ hdigits =>
      exact List.forall_mem_cons.mpr
        ⟨Or.inl rfl, fun c hc => Or.inr (hdigits c hc)⟩

end Unsigned

/-- The numbers up to some bound are read, with or without a plus sign. -/
theorem readUnsigned?_eq_some_iff {max n : Nat} {s : List Char} :
    readUnsigned? max s = some n ↔ Unsigned s n ∧ n ≤ max := by
  unfold readUnsigned?
  simp only [Option.filter_eq_some_iff, decide_eq_true_eq,
    readDigits?_eq_some_iff]
  refine and_congr_left fun _ => ?_
  constructor
  · intro h
    split at h
    case h_1 rest =>
      obtain ⟨hne, hdigits, rfl⟩ := h
      exact .plus hne hdigits
    case h_2 =>
      obtain ⟨hne, hdigits, rfl⟩ := h
      exact .plain hne hdigits
  · rintro (⟨hne, hdigits⟩ | ⟨hne, hdigits⟩)
    · split
      case h_1 rest =>
        -- a digit is no sign
        cases hdigits '+' (List.mem_cons_self ..)
      case h_2 => exact ⟨hne, hdigits, rfl⟩
    · exact ⟨hne, hdigits, rfl⟩

theorem le_maxUnsigned64_iff {n : Nat} : n ≤ maxUnsigned64 ↔ n < UInt64.size := by
  unfold maxUnsigned64 UInt64.size
  omega

/-- The numbers of 64 bits are read. -/
theorem readUnsigned64?_eq_some_iff {n : Nat} {s : List Char} :
    readUnsigned64? s = some n ↔ Unsigned s n ∧ n < UInt64.size := by
  unfold readUnsigned64?
  rw [readUnsigned?_eq_some_iff, le_maxUnsigned64_iff]

end HostWatch.Decimal
