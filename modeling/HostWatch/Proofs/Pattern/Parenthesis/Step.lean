/-
One step of the reader of patterns, with a closing parenthesis behind the text.

What a step makes of a text, it makes of the text with the parenthesis as well
(`step?_keeps`). Where it makes nothing of the text alone, the parenthesis can
be what it lacked, and the step goes through; but the reader is at the end then,
or before a brace that is no repetition (`Halted`).
-/
import HostWatch.Proofs.Pattern.Parenthesis.Bracket

namespace HostWatch.Pattern

variable {s t : List Char} {f : Flags} {c : Char} {n m : Nat}

-- ==================================================== limits

theorem takeDigits_same (h : Trails s t) (hs : s.length ≤ n) (hnm : n ≤ m) :
    Same (takeDigits f n s) (takeDigits f m t) := by
  induction n generalizing s t m with
  | zero =>
      obtain rfl := List.length_eq_zero_iff.mp (Nat.le_zero.mp hs)
      obtain rfl | rfl := trails_nil.mp h <;> cases m <;>
        simp [takeDigits, Same]
  | succ n ih =>
      obtain ⟨m, rfl⟩ : ∃ k, m = k + 1 := ⟨m - 1, by omega⟩
      cases s with
      | nil =>
          obtain rfl | rfl := trails_nil.mp h <;> simp [takeDigits, Same]
      | cons c rest =>
          obtain rfl := trails_cons.mp h
          simp only [takeDigits]
          split
          · have hlength := (f.skip_suffix rest).length_le
            have hrest := ih ((trails_append rest).skip f)
              (by simp at hs; omega) (m := m) (by omega)
            exact ⟨by rw [hrest.1], hrest.2⟩
          · exact ⟨rfl, .inl rfl⟩

theorem readCount?_agree (h : Trails s t) :
    Agree Same (readCount? f s) (readCount? f t) := by
  have hdigits := takeDigits_same (f := f) h.trimStart (Nat.le_refl _)
    h.trimStart.length_le
  unfold readCount?
  dsimp only
  rw [← hdigits.1]
  cases Decimal.readUnsigned? _ _ with
  | none => exact .neither
  | some count => exact .both ⟨rfl, hdigits.2.trimStart.skip f⟩

/-- The upper limit, from where its number can begin. -/
private theorem upperLimit_agree (min : Nat) (h : Trails s t) :
    Agree Same₃
      ((readCount? f s).bind fun a => match a.2 with
        | '\x7d' :: after => if min ≤ a.1 then some (min, some a.1, after) else none
        | _ => (none : Option (Nat × Option Nat × List Char)))
      ((readCount? f t).bind fun a => match a.2 with
        | '\x7d' :: after => if min ≤ a.1 then some (min, some a.1, after) else none
        | _ => none) := by
  refine (readCount?_agree h).bind ?_ (fun _ h => h.elim)
  rintro ⟨max, rest⟩ ⟨_, rest'⟩ - ⟨rfl, hrest⟩
  dsimp only at hrest ⊢
  cases rest with
  | nil => obtain rfl | rfl := trails_nil.mp hrest <;> exact .neither
  | cons c after =>
      obtain rfl := trails_cons.mp hrest
      by_cases hclose : c = '\x7d'
      · simp only [hclose]
        split
        · exact .both ⟨rfl, rfl, trails_append after⟩
        · exact .neither
      · simp only [List.cons.injEq, hclose, false_and, imp_self, implies_true]
        exact .neither

theorem readLimits?_agree (h : Trails s t) :
    Agree Same₃ (readLimits? f s) (readLimits? f t) := by
  unfold readLimits?
  refine (readCount?_agree (h.skip f)).bind ?_ (fun _ h => h.elim)
  rintro ⟨min, rest⟩ ⟨_, rest'⟩ - ⟨rfl, hrest⟩
  dsimp only at hrest ⊢
  cases rest with
  | nil =>
      obtain rfl | rfl := trails_nil.mp hrest <;> exact .neither
  | cons c more =>
      obtain rfl := trails_cons.mp hrest
      by_cases hclose : c = '\x7d'
      · subst hclose
        exact .both ⟨rfl, rfl, trails_append more⟩
      · by_cases hcomma : c = ','
        · simp only [hcomma]
          have hmore := (trails_append more).skip f
          generalize f.skip more = u at hmore ⊢
          generalize f.skip (more ++ [')']) = v at hmore ⊢
          cases u with
          | nil =>
              obtain rfl | rfl := trails_nil.mp hmore <;> exact upperLimit_agree min hmore
          | cons d after =>
              have h := upperLimit_agree (f := f) min hmore
              obtain rfl := trails_cons.mp hmore
              by_cases hclose : d = '\x7d'
              · subst hclose
                exact .both ⟨rfl, rfl, trails_append after⟩
              · simp only [List.cons.injEq, hclose, false_and, imp_self,
                  implies_true]
                exact h
        · simp only [List.cons.injEq, hclose, hcomma, false_and, imp_self,
            implies_true]
          exact .neither

-- ==================================================== openings

variable {r : Reading}

theorem enterNamed?_agree (h : Trails s t) :
    Agree Same (enterNamed? r s) (enterNamed? r t) := by
  unfold enterNamed?
  simp only [drop_length_takeWhile]
  obtain ⟨hname, hbehind⟩ | ⟨-, hs, ht⟩ := h.dropWhile (· != '>')
  · rw [← hname]
    generalize s.dropWhile _ = u at hbehind ⊢
    generalize t.dropWhile _ = v at hbehind ⊢
    cases u with
    | nil => obtain rfl | rfl := trails_nil.mp hbehind <;> exact .neither
    | cons c after =>
        obtain rfl := trails_cons.mp hbehind
        by_cases hc : c = '>'
        · simp only [hc]
          split
          · exact .both ⟨rfl, trails_append after⟩
          · exact .neither
        · simp only [List.cons.injEq, hc, false_and, imp_self, implies_true]
          exact .neither
  · simp only [hs, ht]
    exact .neither

theorem enterFlags?_keeps (h : Trails s t) :
    Keeps Same AtEnd (enterFlags? r s) (enterFlags? r t) := by
  unfold enterFlags?
  simp only [drop_length_takeWhile]
  obtain ⟨hletters, hbehind⟩ | ⟨hnot, -, -⟩ :=
    h.dropWhile fun c => c != ':' && c != ')'
  · rw [← hletters]
    generalize s.dropWhile _ = u at hbehind ⊢
    generalize t.dropWhile _ = v at hbehind ⊢
    cases r.group.flags.read? _ with
    | none => exact .neither
    | some flags =>
        simp only [Option.bind_eq_bind, Option.bind_some]
        cases u with
        | nil =>
            obtain rfl | rfl := trails_nil.mp hbehind
            · simp only
              split
              · exact .neither
              · exact .stray rfl
            · exact .neither
        | cons c after =>
            obtain rfl := trails_cons.mp hbehind
            by_cases hcolon : c = ':'
            · simp only [hcolon]
              exact .both ⟨rfl, trails_append after⟩
            · by_cases hclose : c = ')'
              · simp only [hclose]
                split
                · exact .neither
                · exact .both ⟨rfl, trails_append after⟩
              · simp only [List.cons.injEq, hcolon, hclose, false_and, imp_self,
                  implies_true]
                exact .neither
  · simp at hnot

theorem enter?_keeps (h : Trails s t) :
    Keeps Same AtEnd (enter? r s) (enter? r t) := by
  have hskip := h.skip r.group.flags
  unfold enter?
  generalize r.group.flags.skip s = u at hskip ⊢
  generalize r.group.flags.skip t = v at hskip ⊢
  cases u with
  | nil => obtain rfl | rfl := trails_nil.mp hskip <;> exact .both ⟨rfl, hskip⟩
  | cons c rest =>
      obtain rfl := trails_cons.mp hskip
      by_cases hc : c = '?'
      · subst hc
        cases rest with
        | nil => exact enterFlags?_keeps (trails_append [])
        | cons d more =>
            by_cases hnamed : d = 'P'
            · subst hnamed
              cases more with
              | nil => exact enterFlags?_keeps (trails_append ['P'])
              | cons e name =>
                  by_cases he : e = '<'
                  · subst he
                    exact Keeps.of_agree (enterNamed?_agree (trails_append name))
                  · simp only [List.cons.injEq, Char.reduceEq, he, false_and, and_false,
                      imp_self, implies_true, List.cons_append]
                    exact enterFlags?_keeps (trails_append ('P' :: e :: name))
            · by_cases hangle : d = '<'
              · subst hangle
                cases more with
                | nil =>
                    exact Keeps.of_agree (enterNamed?_agree (trails_append []))
                | cons e name =>
                    by_cases he : e = '=' ∨ e = '!'
                    · obtain rfl | rfl := he <;> exact .neither
                    · rw [not_or] at he
                      simp only [List.cons.injEq, he, false_and, imp_self, implies_true,
                        List.cons_append]
                      exact Keeps.of_agree (enterNamed?_agree (trails_append (e :: name)))
              · simp only [List.cons.injEq, hnamed, hangle, false_and, imp_self,
                  implies_true, List.cons_append]
                exact enterFlags?_keeps (trails_append (d :: more))
      · simp only [List.cons.injEq, hc, false_and, imp_self, implies_true]
        exact .both ⟨rfl, hskip⟩

-- ==================================================== elements

/-- The reader does not get beyond what is left: it is at the end, or cannot
read the next element, which is not the end of a group. -/
def Halted (a : Reading × List Char) : Prop :=
  ∀ c rest, a.1.group.flags.skip a.2 = c :: rest →
    c ≠ ')' ∧ step? a.1 c rest = none

theorem Halted.of_atEnd {a : Reading × List Char} (h : AtEnd a) : Halted a := by
  intro c rest hskip
  rw [show a.2 = [] from h, Flags.skip_nil] at hskip
  cases hskip

/-- A brace without a number behind it is no repetition. -/
theorem Halted.of_brace {limits : List Char}
    (h : r.group.flags.skip limits = [')']) : Halted (r, '\x7b' :: limits) := by
  have hnone : readLimits? r.group.flags limits = none := by
    unfold readLimits?
    rw [h]
    rfl
  intro c rest hskip
  rw [Flags.skip_cons (by decide) (by decide)] at hskip
  cases hskip
  refine ⟨by decide, ?_⟩
  simp only [step?, hnone, Option.bind_none]

theorem dropLazy_trails (h : Trails s t) : Trails (dropLazy s) (dropLazy t) := by
  cases s with
  | nil => obtain rfl | rfl := trails_nil.mp h <;> exact h
  | cons c rest =>
      obtain rfl := trails_cons.mp h
      by_cases hc : c = '?'
      · subst hc
        exact trails_append rest
      · simp only [dropLazy, List.cons.injEq, hc, false_and, imp_self, implies_true]
        exact h

/-- What a step makes of a text, it makes of the text with a parenthesis behind
it. If it makes nothing of the text, it gets no further with the parenthesis. -/
theorem step?_keeps (h : Trails s t) (r : Reading) (c : Char) :
    Keeps Same Halted (step? r c s) (step? r c t) := by
  have hrepeat : ∀ (group : Option Group) {u v : List Char}, Trails u v →
      Keeps Same Halted
        (group.map fun group => ({ r with group }, dropLazy u))
        (group.map fun group => ({ r with group }, dropLazy v)) := by
    intro group u v h
    cases group with
    | none => exact .neither
    | some group => exact .both ⟨rfl, dropLazy_trails h⟩
  unfold step?
  dsimp only
  split
  · refine (Escape.read?_keeps h).bind ?_ ?_
    · rintro ⟨escape, after⟩ ⟨_, after'⟩ - ⟨rfl, hafter⟩
      exact .both ⟨rfl, hafter⟩
    · rintro ⟨escape, after⟩ (hend | ⟨-, limits, hafter, hlimits⟩)
      · exact .stray (.of_atEnd hend)
      · dsimp only at hafter
        rw [hafter]
        exact .stray (.of_brace hlimits)
  · refine (readBracket?_agree h).map ?_ (fun _ h => h.elim)
    rintro ⟨codes, depth, after⟩ ⟨_, _, after'⟩ ⟨rfl, rfl, hafter⟩
    exact ⟨rfl, hafter⟩
  · cases r.group.flags.dot? with
    | none => exact .neither
    | some p => exact .both ⟨rfl, h⟩
  · exact .both ⟨rfl, h⟩
  · exact .both ⟨rfl, h⟩
  · exact .both ⟨rfl, h⟩
  · exact hrepeat _ h
  · exact hrepeat _ h
  · exact hrepeat _ h
  · refine (readLimits?_agree h).bind ?_ (fun _ h => h.elim)
    rintro ⟨min, max, after⟩ ⟨_, _, after'⟩ - ⟨rfl, rfl, hafter⟩
    exact hrepeat _ (hafter.skip _)
  · exact (enter?_keeps h).mono fun _ => .of_atEnd
  · split
    · exact .neither
    · exact .both ⟨rfl, h⟩
  · exact .both ⟨rfl, h⟩

end HostWatch.Pattern
