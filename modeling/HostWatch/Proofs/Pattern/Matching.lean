/-
What a pattern matches, and that matching finds it.

`Spans` says which part of a text a pattern matches, by the form of the
pattern and with no algorithm in sight: from one position to another.
Matching works on sets of positions instead, and cuts its repetitions off
(`testBit_ends` says that it gives the right set all the same).

Why the cut is harmless is the one thing that needs an argument. A pattern
never leads backwards, and a text has no more positions than its length and
one. So of more repetitions than that, some one leads nowhere
(`Steps.exists_loop`), and it can be left out or put in once more
(`Steps.iff_of_le`): the exact number does not matter beyond the limit, and
where up to so many repetitions are allowed, no more than the limit are ever
needed (`Steps.shorten`).
-/
import HostWatch.Pattern
import Mathlib.Data.List.Basic
import Mathlib.Data.Nat.Bitwise
import Mathlib.Logic.Function.Iterate

namespace HostWatch.Pattern

-- ==================================================== steps

/-- A number of steps of a relation, one after the other. -/
def Steps (R : Nat → Nat → Prop) : Nat → Nat → Nat → Prop
  | 0, i, j => i = j
  | n + 1, i, j => ∃ k, R i k ∧ Steps R n k j

namespace Steps

variable {R : Nat → Nat → Prop} {i j k m n : Nat}

theorem add_iff : Steps R (m + n) i j ↔ ∃ k, Steps R m i k ∧ Steps R n k j := by
  induction m generalizing i with
  | zero => simp [Steps]
  | succ m ih =>
      rw [show m + 1 + n = (m + n) + 1 by omega]
      simp only [Steps, ih]
      constructor
      · rintro ⟨a, ha, b, hb, hj⟩
        exact ⟨b, ⟨a, ha, hb⟩, hj⟩
      · rintro ⟨b, ⟨a, ha, hb⟩, hj⟩
        exact ⟨a, ha, b, hb, hj⟩

theorem one_iff : Steps R 1 i j ↔ R i j := by simp [Steps]

section Forward

variable (hR : ∀ i j, R i j → i ≤ j)

include hR

theorem le (h : Steps R n i j) : i ≤ j := by
  induction n generalizing i with
  | zero => exact Nat.le_of_eq h
  | succ n ih =>
      obtain ⟨k, hk, hj⟩ := h
      exact Nat.le_trans (hR i k hk) (ih hj)

/-- Steps that lead nowhere can be left out. -/
theorem shorten (h : Steps R n i j) :
    ∃ m, m ≤ n ∧ m ≤ j - i ∧ Steps R m i j := by
  induction n generalizing i with
  | zero => exact ⟨0, by omega, by omega, h⟩
  | succ n ih =>
      obtain ⟨k, hk, hj⟩ := h
      obtain ⟨m, hmn, hm, hsteps⟩ := ih hj
      have hik := hR i k hk
      have hkj := le hR hj
      by_cases heq : i = k
      · subst heq
        exact ⟨m, by omega, hm, hsteps⟩
      · exact ⟨m + 1, by omega, by omega, k, hk, hsteps⟩

/-- Of more steps than there are positions to move on to, one leads nowhere. -/
theorem exists_loop (h : Steps R n i j) (hn : j - i < n) :
    ∃ a b k, a + 1 + b = n ∧ Steps R a i k ∧ R k k ∧ Steps R b k j := by
  induction n generalizing i with
  | zero => omega
  | succ n ih =>
      obtain ⟨k, hk, hj⟩ := h
      have hik := hR i k hk
      have hkj := le hR hj
      by_cases heq : i = k
      · subst heq
        exact ⟨0, n, i, by omega, rfl, hk, hj⟩
      · obtain ⟨a, b, l, hab, ha, hl, hb⟩ := ih hj (by omega)
        exact ⟨a + 1, b, l, by omega, ⟨k, hk, ha⟩, hl, hb⟩

/-- Such a step can be taken once more, or once less. -/
theorem succ_iff (hn : j - i < n) : Steps R (n + 1) i j ↔ Steps R n i j := by
  constructor
  · intro h
    obtain ⟨a, b, k, hab, ha, -, hb⟩ := exists_loop hR h (by omega)
    rw [show n = a + b by omega]
    exact add_iff.mpr ⟨k, ha, hb⟩
  · intro h
    obtain ⟨a, b, k, hab, ha, hk, hb⟩ := exists_loop hR h hn
    rw [show n + 1 = a + (1 + (1 + b)) by omega]
    have hloop := one_iff.mpr hk
    exact add_iff.mpr
      ⟨k, ha, add_iff.mpr ⟨k, hloop, add_iff.mpr ⟨k, hloop, hb⟩⟩⟩

/-- So beyond the limit the number of steps does not matter. -/
theorem iff_of_le (hm : j - i < m) (hmn : m ≤ n) :
    Steps R n i j ↔ Steps R m i j := by
  induction n, hmn using Nat.le_induction with
  | base => exact Iff.rfl
  | succ n hmn ih => rw [succ_iff hR (by omega), ih]

end Forward

end Steps

-- ==================================================== what a pattern matches

/-- The character before a position of a text. -/
def charBefore (text : List Char) : Nat → Option Char
  | 0 => none
  | i + 1 => text[i]?

/-- A pattern matches a text from one position to another. -/
def Spans (text : List Char) : Pattern → Nat → Nat → Prop
  | empty, i, j => i = j
  | one codes, i, j => j = i + 1 ∧ ∃ c, text[i]? = some c ∧ codes.hasChar c = true
  | assertion a, i, j => i = j ∧ a.holds (charBefore text i) text[i]? = true
  | sequence a b, i, j => ∃ k, a.Spans text i k ∧ b.Spans text k j
  | either a b, i, j => a.Spans text i j ∨ b.Spans text i j
  | repeated p min max, i, j => ∃ more, (∀ m ∈ max, more ≤ m - min)
      ∧ Steps (p.Spans text) (min + more) i j
  | captured p, i, j => p.Spans text i j

variable {text : List Char} {p : Pattern} {i j : Nat}

theorem Spans.le (h : p.Spans text i j) : i ≤ j := by
  induction p generalizing i j with
  | empty => exact Nat.le_of_eq h
  | one codes =>
      obtain ⟨rfl, -⟩ := h
      omega
  | assertion a => exact Nat.le_of_eq h.1
  | sequence a b iha ihb =>
      obtain ⟨k, ha, hb⟩ := h
      exact Nat.le_trans (iha ha) (ihb hb)
  | either a b iha ihb => exact h.elim iha ihb
  | repeated p min max ih =>
      obtain ⟨more, -, hsteps⟩ := h
      exact Steps.le (fun _ _ => ih) hsteps
  | captured p ih => exact ih h

theorem Steps.le_of_le {R : Nat → Nat → Prop} {n bound : Nat}
    (hR : ∀ i j, R i j → i ≤ bound → j ≤ bound) (h : Steps R n i j)
    (hi : i ≤ bound) : j ≤ bound := by
  induction n generalizing i with
  | zero => exact h ▸ hi
  | succ n ih =>
      obtain ⟨k, hk, hj⟩ := h
      exact ih hj (hR i k hk hi)

/-- What begins in a text ends in it. -/
theorem Spans.le_length (h : p.Spans text i j) (hi : i ≤ text.length) :
    j ≤ text.length := by
  induction p generalizing i j with
  | empty => exact h ▸ hi
  | one codes =>
      obtain ⟨rfl, c, hc, -⟩ := h
      have := (List.getElem?_eq_some_iff.mp hc).1
      omega
  | assertion a => exact h.1 ▸ hi
  | sequence a b iha ihb =>
      obtain ⟨k, ha, hb⟩ := h
      exact ihb hb (iha ha hi)
  | either a b iha ihb => exact h.elim (iha · hi) (ihb · hi)
  | repeated p min max ih =>
      obtain ⟨more, -, hsteps⟩ := h
      exact Steps.le_of_le (fun _ _ => ih) hsteps hi
  | captured p ih => exact ih h hi

-- ==================================================== sets of positions

/-- All positions of a set lie in a text. -/
def Within (text : List Char) (here : Positions) : Prop :=
  ∀ i, here.testBit i = true → i ≤ text.length

theorem getElem?_sides (text : List Char) (i : Nat) :
    (sides text)[i]?
      = if i ≤ text.length then some (charBefore text i, text[i]?) else none := by
  have hleft : (none :: text.map some)[i]?
      = if i ≤ text.length then some (charBefore text i) else none := by
    cases i with
    | zero => simp [charBefore]
    | succ i =>
        by_cases hi : i < text.length
        · simp [charBefore, hi, Nat.succ_le_of_lt hi]
        · have hnot : ¬ i + 1 ≤ text.length := hi
          rw [if_neg hnot]
          exact List.getElem?_eq_none (by
            simp only [List.length_cons, List.length_map]
            omega)
  have hright : (text.map some ++ [none])[i]?
      = if i ≤ text.length then some text[i]? else none := by
    by_cases hi : i < text.length
    · rw [List.getElem?_append_left (by simpa using hi)]
      simp [hi, Nat.le_of_lt hi]
    · rw [List.getElem?_append_right (by simpa using hi), List.length_map]
      by_cases heq : i = text.length
      · simp [heq]
      · have hlt : text.length < i := by omega
        have hnot : ¬ i ≤ text.length := by omega
        rw [if_neg hnot, List.getElem?_eq_none]
        simp
        omega
  unfold sides
  rw [List.zip, List.getElem?_zipWith, hleft, hright]
  by_cases hi : i ≤ text.length <;> simp [hi]

theorem testBit_positionsWhere {test : Option Char → Option Char → Bool} :
    (positionsWhere test text).testBit i = true
      ↔ i ≤ text.length ∧ test (charBefore text i) text[i]? = true := by
  have hfold : ∀ (l : List (Option Char × Option Char)) (i : Nat),
      (l.foldr (fun s rest => 2 * rest + (test s.1 s.2).toNat) 0).testBit i = true
        ↔ ∃ s, l[i]? = some s ∧ test s.1 s.2 = true := by
    intro l
    induction l with
    | nil => simp
    | cons s l ih =>
        intro i
        cases i with
        | zero =>
            cases htest : test s.1 s.2 <;> simp [Nat.testBit_zero, htest]
        | succ i =>
            rw [List.foldr_cons, Nat.testBit_succ]
            have hhalf : ∀ n, (2 * n + (test s.1 s.2).toNat) / 2 = n := by
              intro n
              have := Bool.toNat_lt (test s.1 s.2)
              omega
            rw [hhalf, ih]
            simp
  refine (hfold (sides text) i).trans ?_
  rw [getElem?_sides]
  by_cases hi : i ≤ text.length <;> simp [hi]

-- ==================================================== repetitions

namespace Layout

variable {R : Nat → Nat → Prop} {step : Positions → Positions}
    {here reached newest : Positions} {n : Nat}

/-- What leads from a set of positions to the one behind it follows a relation
of single positions. -/
def Follows (text : List Char) (step : Positions → Positions)
    (R : Nat → Nat → Prop) : Prop :=
  ∀ here, Within text here → ∀ j, (step here).testBit j = true
    ↔ ∃ i, here.testBit i = true ∧ R i j

theorem Follows.within (h : Follows text step R)
    (hR : ∀ i j, R i j → i ≤ text.length → j ≤ text.length)
    (hhere : Within text here) : Within text (step here) := by
  intro j hj
  obtain ⟨i, hi, hij⟩ := (h here hhere j).mp hj
  exact hR i j hij (hhere i hi)

/-- Stopping early makes no difference, as nothing changes any more. -/
theorem after_eq_iterate (step : Positions → Positions) (n : Nat)
    (here : Positions) : after step n here = step^[n] here := by
  induction n generalizing here with
  | zero => rfl
  | succ n ih =>
      simp only [after]
      by_cases hfixed : step here = here
      · rw [if_pos hfixed, Function.iterate_fixed hfixed]
      · rw [if_neg hfixed, ih, Function.iterate_succ_apply]

theorem testBit_after (h : Follows text step R)
    (hR : ∀ i j, R i j → i ≤ text.length → j ≤ text.length)
    (hhere : Within text here) :
    (after step n here).testBit j = true
      ↔ ∃ i, here.testBit i = true ∧ Steps R n i j := by
  rw [after_eq_iterate]
  induction n generalizing here with
  | zero => simp [Steps]
  | succ n ih =>
      rw [Function.iterate_succ_apply, ih (h.within hR hhere)]
      simp only [h here hhere, Steps]
      constructor
      · rintro ⟨k, ⟨i, hi, hik⟩, hkj⟩
        exact ⟨i, hi, k, hik, hkj⟩
      · rintro ⟨i, hi, k, hik, hkj⟩
        exact ⟨k, ⟨i, hi, hik⟩, hkj⟩

/-- Steps need to be taken from new positions only, as those from the others
have been taken. -/
theorem testBit_within (h : Follows text step R)
    (hR : ∀ i j, R i j → i ≤ text.length → j ≤ text.length)
    (hreached : Within text reached)
    (hnewest : ∀ i, newest.testBit i = true → reached.testBit i = true)
    (htaken : ∀ i j, reached.testBit i = true → newest.testBit i = false →
      R i j → reached.testBit j = true) :
    (within step n reached newest).testBit j = true
      ↔ ∃ k, k ≤ n ∧ ∃ i, reached.testBit i = true ∧ Steps R k i j := by
  induction n generalizing reached newest with
  | zero =>
      simp [within, Steps]
  | succ n ih =>
      have hwithin : Within text newest := fun i hi => hreached i (hnewest i hi)
      have hall : ∀ j, (reached ||| step newest).testBit j = true
          ↔ reached.testBit j = true
            ∨ ∃ i, newest.testBit i = true ∧ R i j := by
        intro j
        rw [Nat.testBit_or, Bool.or_eq_true, h newest hwithin]
      -- every step from a position that was reached leads to one that is now
      have hstep : ∀ i j, reached.testBit i = true → R i j →
          (reached ||| step newest).testBit j = true := by
        intro i j hi hij
        rw [hall]
        cases hnew : newest.testBit i with
        | true => exact .inr ⟨i, hnew, hij⟩
        | false => exact .inl (htaken i j hi hnew hij)
      simp only [Layout.within]
      by_cases hdone : reached ||| step newest = reached
      · rw [if_pos hdone]
        rw [hdone] at hstep
        have hclosed : ∀ k i j, reached.testBit i = true → Steps R k i j →
            reached.testBit j = true := by
          intro k
          induction k with
          | zero =>
              intro i j hi hij
              exact hij ▸ hi
          | succ k ihk =>
              rintro i j hi ⟨l, hil, hlj⟩
              exact ihk l j (hstep i l hi hil) hlj
        constructor
        · intro hj
          exact ⟨0, by omega, j, hj, rfl⟩
        · rintro ⟨k, -, i, hi, hij⟩
          exact hclosed k i j hi hij
      · rw [if_neg hdone]
        have hmore : Within text (reached ||| step newest) := by
          intro j hj
          rcases (hall j).mp hj with hj | ⟨i, hi, hij⟩
          · exact hreached j hj
          · exact hR i j hij (hwithin i hi)
        rw [ih hmore]
        · constructor
          · rintro ⟨k, hk, i, hi, hij⟩
            rcases (hall i).mp hi with hi | ⟨l, hl, hli⟩
            · exact ⟨k, by omega, i, hi, hij⟩
            · exact ⟨k + 1, by omega, l, hnewest l hl, i, hli, hij⟩
          · rintro ⟨k, hk, i, hi, hij⟩
            cases k with
            | zero => exact ⟨0, by omega, i, (hall i).mpr (.inl hi), hij⟩
            | succ k =>
                obtain ⟨l, hil, hlj⟩ := hij
                exact ⟨k, by omega, l, hstep i l hi hil, hlj⟩
        · intro i hi
          rw [Nat.testBit_xor] at hi
          cases hi' : (reached ||| step newest).testBit i with
          | true => rfl
          | false =>
              have hnot : reached.testBit i = false := by
                cases hr : reached.testBit i with
                | false => rfl
                | true => rw [(hall i).mpr (.inl hr)] at hi'; cases hi'
              rw [hi', hnot] at hi
              cases hi
        · intro i j hi hnew hij
          rw [Nat.testBit_xor, hi, Bool.true_xor, Bool.not_eq_false'] at hnew
          exact hstep i j hnew hij

/-- Repetitions that are cut off lead as far as those that are not. -/
theorem testBit_repeated {min : Nat} {max : Option Nat}
    (h : Follows text step R)
    (hR : ∀ i j, R i j → i ≤ text.length → j ≤ text.length)
    (hle : ∀ i j, R i j → i ≤ j) (hhere : Within text here) {limit : Nat}
    (hlimit : text.length < limit) :
    (within step (max.elim limit fun max => Nat.min (max - min) limit)
        (after step (Nat.min min limit) here)
        (after step (Nat.min min limit) here)).testBit j = true
      ↔ ∃ i, here.testBit i = true ∧ ∃ more, (∀ m ∈ max, more ≤ m - min)
        ∧ Steps R (min + more) i j := by
  have hleast : Within text (after step (Nat.min min limit) here) := by
    intro k hk
    obtain ⟨i, hi, hik⟩ := (testBit_after h hR hhere).mp hk
    exact Steps.le_of_le hR hik (hhere i hi)
  -- beyond the limit it does not matter how often at least
  have hmin : ∀ i k, here.testBit i = true →
      (Steps R (Nat.min min limit) i k ↔ Steps R min i k) := by
    intro i k hi
    by_cases hcut : min ≤ limit
    · rw [show Nat.min min limit = min from Nat.min_eq_left hcut]
    · rw [show Nat.min min limit = limit from Nat.min_eq_right (by omega)]
      constructor
      · intro hik
        have hk := Steps.le_of_le hR hik (hhere i hi)
        exact (Steps.iff_of_le hle (by omega) (by omega)).mpr hik
      · intro hik
        have hk := Steps.le_of_le hR hik (hhere i hi)
        exact (Steps.iff_of_le hle (by omega) (by omega)).mp hik
  rw [testBit_within h hR hleast (fun _ hi => hi)
    (fun i _ hi hnot => by rw [hi] at hnot; cases hnot)]
  simp only [testBit_after h hR hhere]
  constructor
  · rintro ⟨more, hmore, k, ⟨i, hi, hik⟩, hkj⟩
    refine ⟨i, hi, more, ?_, Steps.add_iff.mpr ⟨k, (hmin i k hi).mp hik, hkj⟩⟩
    rintro m rfl
    exact Nat.le_trans hmore (Nat.min_le_left ..)
  · rintro ⟨i, hi, more, hmore, hij⟩
    obtain ⟨k, hik, hkj⟩ := Steps.add_iff.mp hij
    obtain ⟨fewer, hfewer, hshort, hkj⟩ := Steps.shorten hle hkj
    have hk := Steps.le_of_le hR hik (hhere i hi)
    have hj := Steps.le_of_le hR hkj hk
    refine ⟨fewer, ?_, k, ⟨i, hi, (hmin i k hi).mpr hik⟩, hkj⟩
    cases max with
    | none => exact show fewer ≤ limit by omega
    | some m =>
        have := hmore m rfl
        exact Nat.le_min.mpr ⟨by omega, by omega⟩

end Layout

-- ==================================================== matching

/-- Matching leads from a set of positions to all those, and only those, to
which the pattern matches from there. -/
theorem testBit_ends {limit : Nat} (hlimit : text.length < limit) :
    ∀ {here : Positions}, Within text here → ∀ {j : Nat},
      ((p.layOut text).ends limit here).testBit j = true
        ↔ ∃ i, here.testBit i = true ∧ p.Spans text i j := by
  induction p with
  | empty =>
      intro here _ j
      simp [layOut, Layout.ends, Spans]
  | one codes =>
      intro here _ j
      simp only [layOut, Layout.ends, Spans, Nat.testBit_shiftLeft,
        Nat.testBit_and, Bool.and_eq_true, decide_eq_true_eq,
        testBit_positionsWhere]
      constructor
      · rintro ⟨hj, hi, -, hcode⟩
        rw [Option.any_eq_true] at hcode
        obtain ⟨c, hc, hcode⟩ := hcode
        exact ⟨j - 1, hi, by omega, c, hc, hcode⟩
      · rintro ⟨i, hi, rfl, c, hc, hcode⟩
        have hlt := (List.getElem?_eq_some_iff.mp hc).1
        refine ⟨by omega, by simpa using hi, by omega, ?_⟩
        simp [hc, hcode]
  | assertion a =>
      intro here hhere j
      simp only [layOut, Layout.ends, Spans, Nat.testBit_and,
        Bool.and_eq_true, testBit_positionsWhere]
      constructor
      · rintro ⟨hj, -, hspot⟩
        exact ⟨j, hj, rfl, hspot⟩
      · rintro ⟨i, hi, rfl, hspot⟩
        exact ⟨hi, hhere i hi, hspot⟩
  | sequence a b iha ihb =>
      intro here hhere j
      have hmiddle : Within text ((a.layOut text).ends limit here) := by
        intro k hk
        obtain ⟨i, hi, hik⟩ := (iha hhere).mp hk
        exact hik.le_length (hhere i hi)
      simp only [layOut, Layout.ends, Spans, ihb hmiddle, iha hhere]
      constructor
      · rintro ⟨k, ⟨i, hi, hik⟩, hkj⟩
        exact ⟨i, hi, k, hik, hkj⟩
      · rintro ⟨i, hi, k, hik, hkj⟩
        exact ⟨k, ⟨i, hi, hik⟩, hkj⟩
  | either a b iha ihb =>
      intro here hhere j
      simp only [layOut, Layout.ends, Spans, Nat.testBit_or, Bool.or_eq_true,
        iha hhere, ihb hhere]
      constructor
      · rintro (⟨i, hi, hij⟩ | ⟨i, hi, hij⟩)
        · exact ⟨i, hi, .inl hij⟩
        · exact ⟨i, hi, .inr hij⟩
      · rintro ⟨i, hi, hij | hij⟩
        · exact .inl ⟨i, hi, hij⟩
        · exact .inr ⟨i, hi, hij⟩
  | repeated p min max ih =>
      intro here hhere j
      exact Layout.testBit_repeated (fun here hhere j => ih hhere)
        (fun _ _ => Spans.le_length) (fun _ _ => Spans.le) hhere hlimit
  | captured p ih => exact ih

/-- A text has a part that matches exactly if the pattern matches from some
position in it to some other. -/
theorem matchesIn_iff : p.matchesIn text = true
    ↔ ∃ i, i ≤ text.length ∧ ∃ j, p.Spans text i j := by
  have hstarts : ∀ i,
      (positionsWhere (fun _ _ => true) text).testBit i = true
        ↔ i ≤ text.length := by
    intro i
    simp [testBit_positionsWhere]
  have hwithin : Within text (positionsWhere (fun _ _ => true) text) :=
    fun i hi => (hstarts i).mp hi
  have hne : ∀ n : Nat, (n != 0) = true ↔ ∃ j, n.testBit j = true := by
    intro n
    rw [bne_iff_ne]
    constructor
    · exact Nat.exists_testBit_of_ne_zero
    · rintro ⟨j, hj⟩ rfl
      simp at hj
  unfold matchesIn
  rw [hne]
  simp only [testBit_ends (Nat.lt_succ_self _) hwithin, hstarts]
  constructor
  · rintro ⟨j, i, hi, hij⟩
    exact ⟨i, hi, j, hij⟩
  · rintro ⟨i, hi, j, hij⟩
    exact ⟨j, i, hi, hij⟩

end HostWatch.Pattern
