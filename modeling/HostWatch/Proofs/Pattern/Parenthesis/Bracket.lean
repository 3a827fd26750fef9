/-
Sets in brackets, with a closing parenthesis behind the text.

A bracket needs an end of its own, which the parenthesis is not. So a text that
holds no whole bracket holds none with the parenthesis behind it either, and
the set is the same as long as there is one (`readBracket?_agree`). Inside of a
bracket the parenthesis can be taken for a character; but then the bracket does
not end any more.
-/
import HostWatch.Proofs.Pattern.Parenthesis

namespace HostWatch.Pattern

open Text (CodeSet)

variable {s t : List Char} {f : Flags} {c : Char} {n m : Nat}

-- ==================================================== classes

/-- A caret at the start, which negates what follows. -/
theorem Trails.dropCaret (h : Trails s t) :
    (t.head? == some '^') = (s.head? == some '^')
      ∧ Trails (if s.head? == some '^' then s.drop 1 else s)
        (if s.head? == some '^' then t.drop 1 else t) := by
  cases s with
  | nil => obtain rfl | rfl := trails_nil.mp h <;> simp
  | cons c rest =>
      obtain rfl := trails_cons.mp h
      by_cases hc : c = '^' <;> simp [hc, trails_append]

theorem dropPrefix?_agree {p s t : List Char} (hp : ')' ∉ p) (h : Trails s t) :
    Agree Trails (Text.dropPrefix? p s) (Text.dropPrefix? p t) := by
  induction p generalizing s t with
  | nil => exact .both h
  | cons a p ih =>
      rw [List.mem_cons, not_or] at hp
      have hcons : ∀ c s, Text.dropPrefix? (a :: p) (c :: s)
          = if a = c then Text.dropPrefix? p s else none := by
        intro c s
        by_cases ha : a = c <;> simp [Text.dropPrefix?, ha]
      cases s with
      | nil =>
          obtain rfl | rfl := trails_nil.mp h
          · rw [hcons, if_neg (Ne.symm hp.1)]
            exact .neither
          · exact .neither
      | cons c s =>
          obtain rfl := trails_cons.mp h
          rw [hcons, hcons]
          split
          · exact ih hp.2 (trails_append s)
          · exact .neither

theorem namedClass?_agree (h : Trails s t) :
    Agree Same₃ (namedClass? s) (namedClass? t) := by
  unfold namedClass?
  refine (dropPrefix?_agree (by decide) h).bind ?_ (fun _ h => h.elim)
  rintro inside inside' - h
  obtain ⟨hhead, hname⟩ := h.dropCaret
  simp only [hhead, drop_length_takeWhile]
  generalize (if (inside.head? == some '^') = true then inside.drop 1
    else inside) = u at hname ⊢
  generalize (if (inside.head? == some '^') = true then inside'.drop 1
    else inside') = v at hname ⊢
  obtain ⟨hsame, hbehind⟩ | ⟨-, hu, hv⟩ := hname.dropWhile (· != ':')
  · rw [hsame]
    refine (dropPrefix?_agree (by decide) hbehind).bind ?_ (fun _ h => h.elim)
    rintro after after' - hafter
    cases namedClasses.lookup _ with
    | none => exact .neither
    | some codes => exact .both ⟨rfl, rfl, hafter⟩
  · rw [hu, hv]
    exact .neither

-- ==================================================== brackets

namespace Bracket

theorem takeHyphens_same (h : Trails s t) (hs : s.length ≤ n) (hnm : n ≤ m)
    (b : Bracket) : Same (takeHyphens f n b s) (takeHyphens f m b t) := by
  induction n generalizing s t m b with
  | zero =>
      obtain rfl := List.length_eq_zero_iff.mp (Nat.le_zero.mp hs)
      cases m with
      | zero => exact ⟨rfl, h⟩
      | succ m =>
          have hskip := h.skip f
          rw [f.skip_nil] at hskip
          simp only [takeHyphens]
          obtain ht | ht := trails_nil.mp hskip <;> rw [ht] at hskip ⊢ <;>
            exact ⟨rfl, hskip⟩
  | succ n ih =>
      obtain ⟨m, rfl⟩ : ∃ k, m = k + 1 := ⟨m - 1, by omega⟩
      have hskip := h.skip f
      have hlength := (f.skip_suffix s).length_le
      simp only [takeHyphens]
      generalize f.skip s = u at hskip hlength ⊢
      generalize f.skip t = v at hskip ⊢
      cases u with
      | nil => obtain rfl | rfl := trails_nil.mp hskip <;> exact ⟨rfl, hskip⟩
      | cons c rest =>
          obtain rfl := trails_cons.mp hskip
          by_cases hhyphen : c = '-'
          · subst hhyphen
            simp at hlength
            exact ih (trails_append rest) (by omega) (by omega) _
          · simp only [List.cons.injEq, hhyphen, false_and, imp_self, implies_true]
            exact ⟨rfl, hskip⟩

theorem start_same (h : Trails s t) : Same (start f s) (start f t) := by
  obtain ⟨hhead, hitems⟩ := (h.skip f).dropCaret
  unfold start
  dsimp only
  rw [hhead]
  generalize (if ((f.skip s).head? == some '^') = true then (f.skip s).drop 1
    else f.skip s) = u at hitems ⊢
  generalize (if ((f.skip s).head? == some '^') = true then (f.skip t).drop 1
    else f.skip t) = v at hitems ⊢
  have hsame := takeHyphens_same (f := f) hitems (Nat.le_refl _) hitems.length_le
    { negated := (f.skip s).head? == some '^' }
  generalize takeHyphens f u.length _ u = x at hsame ⊢
  generalize takeHyphens f v.length _ v = y at hsame ⊢
  obtain ⟨b, rest⟩ := x
  obtain ⟨_, rest'⟩ := y
  obtain ⟨rfl, hrest⟩ := hsame
  dsimp only at hrest
  cases rest with
  | nil =>
      obtain rfl | rfl := trails_nil.mp hrest <;> exact ⟨rfl, hrest⟩
  | cons c more =>
      obtain rfl := trails_cons.mp hrest
      by_cases hc : c = ']'
      · simp only [hc]
        split
        · exact ⟨rfl, trails_append more⟩
        · exact ⟨rfl, trails_append (']' :: more)⟩
      · simp only [List.cons.injEq, hc, false_and, imp_self, implies_true]
        exact ⟨rfl, hrest⟩

theorem readItem?_keeps (h : Trails s t) :
    Keeps Same (Escape.Stray f) (readItem? f s) (readItem? f t) := by
  cases s with
  | nil =>
      obtain rfl | rfl := trails_nil.mp h
      · exact .stray (.inl rfl)
      · exact .neither
  | cons c rest =>
      obtain rfl := trails_cons.mp h
      by_cases hc : c = '\\'
      · simp only [hc, readItem?]
        exact Escape.read?_keeps (trails_append rest)
      · simp only [readItem?]
        exact .both ⟨rfl, trails_append rest⟩

theorem peek_eq_some_iff (h : Trails s t) (hc : c ≠ ')') :
    peek f t = some c ↔ peek f s = some c := by
  have hhead : ∀ {s t : List Char}, Trails s t →
      (t.head? = some c ↔ s.head? = some c) := by
    intro s t h
    cases s with
    | nil => obtain rfl | rfl := trails_nil.mp h <;> simp [Ne.symm hc]
    | cons d rest =>
        obtain rfl := trails_cons.mp h
        simp
  unfold peek
  split
  · have htrim := h.trimStart
    generalize Text.trimStart s = u at htrim ⊢
    generalize Text.trimStart t = v at htrim ⊢
    cases u with
    | nil => obtain rfl | rfl := trails_nil.mp htrim <;> exact hhead htrim
    | cons d rest =>
        obtain rfl := trails_cons.mp htrim
        by_cases hd : d = '#'
        · simp only [hd]
          exact hhead (trails_append rest).trimStart
        · simp only [List.cons.injEq, hd, false_and, imp_self, implies_true]
          exact hhead htrim
  · exact hhead h

/-- No more than the parenthesis is left behind a result. -/
def NearEnd {α : Type} (a : α × List Char) : Prop := Trails [] a.2

theorem readRange?_keeps (h : Trails s t) :
    Keeps Same NearEnd (readRange? f s) (readRange? f t) := by
  have hgive : ∀ (alone : Option CodeSet) {u v : List Char}, Trails u v →
      Keeps Same NearEnd (alone.bind fun codes => some (codes, u))
        (alone.bind fun codes => some (codes, v)) := by
    intro alone u v h
    cases alone with
    | none => exact .neither
    | some codes => exact .both ⟨rfl, h⟩
  have hlate : ∀ alone : Option CodeSet, Keeps Same NearEnd none
      (alone.bind fun codes => some (codes, [')'])) := by
    intro alone
    cases alone with
    | none => exact .neither
    | some codes => exact .stray (trails_nil.mpr (.inl rfl))
  unfold readRange?
  refine (readItem?_keeps h).bind ?_ ?_
  · rintro ⟨first, after⟩ ⟨_, after'⟩ - ⟨rfl, hafter⟩
    have hskip := hafter.skip f
    dsimp only at hskip ⊢
    generalize f.skip after = u at hskip ⊢
    generalize f.skip after' = v at hskip ⊢
    cases u with
    | nil =>
        obtain rfl | rfl := trails_nil.mp hskip
        · exact hlate _
        · exact .neither
    | cons c rest =>
        obtain rfl := trails_cons.mp hskip
        by_cases hc : c = '-'
        · have hrest := trails_append rest
          simp only [hc, Bool.or_eq_true, beq_iff_eq,
            peek_eq_some_iff hrest (show ']' ≠ ')' by decide),
            peek_eq_some_iff hrest (show '-' ≠ ')' by decide)]
          split
          · exact hgive _ (trails_append ('-' :: rest))
          · refine (readItem?_keeps (hrest.skip f)).bind ?_ ?_
            · rintro ⟨last, behind⟩ ⟨_, behind'⟩ - ⟨rfl, hbehind⟩
              dsimp only at hbehind ⊢
              cases bound? f first with
              | none => exact .neither
              | some low =>
                  cases bound? f last with
                  | none => exact .neither
                  | some high =>
                      simp only [Option.bind_eq_bind, Option.bind_some]
                      split
                      · exact .both ⟨rfl, hbehind⟩
                      · exact .neither
            · rintro ⟨last, behind⟩ hstray
              dsimp only
              cases bound? f first with
              | none => exact .neither
              | some low =>
                  simp only [Option.bind_eq_bind, Option.bind_some]
                  obtain hend | ⟨⟨a, hlast⟩, -⟩ := hstray
                  · cases bound? f last with
                    | none => exact .neither
                    | some high =>
                        simp only [Option.bind_some]
                        split
                        · exact .stray (trails_nil.mpr (.inr hend))
                        · exact .neither
                  · dsimp only at hlast
                    rw [hlast]
                    exact .neither
        · simp only [List.cons.injEq, hc, false_and, imp_self, implies_true]
          exact hgive _ hskip
  · rintro ⟨first, after⟩ (hend | ⟨⟨a, hfirst⟩, limits, hafter, -⟩)
    · dsimp only at hend
      simp only [hend, f.skip_nil]
      exact .neither
    · dsimp only at hfirst hafter
      have hskip : f.skip after = '\x7b' :: limits := by
        rw [hafter, Flags.skip_cons (by decide) (by decide)]
      simp only [hfirst, hskip]
      exact .neither

/-- A bracket does not end in a text that has no more than a parenthesis. -/
theorem readInside?_of_skip (ht : f.skip t = [')'] ∨ f.skip t = []) (n : Nat)
    (b : Bracket) (outer : List Bracket) : readInside? f n b outer t = none := by
  cases n with
  | zero => rfl
  | succ n => obtain ht | ht := ht <;> simp [readInside?, ht, readRange?, readItem?]

/-- The first character is one of two that make an operator. -/
def IsOperator (c : Char) (rest : List Char) : Prop :=
  c ∈ ['&', '-', '~'] ∧ ∃ more, rest = c :: more

theorem isOperator_append (c : Char) (rest : List Char) :
    IsOperator c (rest ++ [')']) ↔ IsOperator c rest := by
  unfold IsOperator
  constructor
  · rintro ⟨hc, more, hmore⟩
    refine ⟨hc, ?_⟩
    cases rest with
    | nil =>
        cases hmore
        simp at hc
    | cons d rest =>
        cases hmore
        exact ⟨rest, rfl⟩
  · rintro ⟨hc, more, rfl⟩
    exact ⟨hc, more ++ [')'], rfl⟩

/-- What is neither a bracket nor an operator is an item. -/
theorem readInside?_item {b : Bracket} {outer : List Bracket} {rest : List Char}
    (hskip : f.skip s = c :: rest) (hopen : c ≠ '[') (hclose : c ≠ ']')
    (hoperator : ¬ IsOperator c rest) :
    readInside? f (n + 1) b outer s
      = (readRange? f (c :: rest)).bind fun a =>
        readInside? f n (b.add a.1 0) outer a.2 := by
  simp only [readInside?, hskip]
  split
  · rename_i heq
    cases heq
  · rename_i heq
    cases heq
    exact (hopen rfl).elim
  · rename_i heq
    cases heq
    exact (hclose rfl).elim
  · rename_i more heq
    cases heq
    exact (hoperator ⟨by decide, more, rfl⟩).elim
  · rename_i more heq
    cases heq
    exact (hoperator ⟨by decide, more, rfl⟩).elim
  · rename_i more heq
    cases heq
    exact (hoperator ⟨by decide, more, rfl⟩).elim
  · rfl

section Nested

-- whatever is read behind the next item agrees, in this bracket and in others
variable {b : Bracket} {outer : List Bracket} {rest : List Char}
    (hrec : ∀ {u v : List Char} (b : Bracket) (outer : List Bracket),
      Trails u v → u.length < n →
        Agree Same₃ (readInside? f n b outer u) (readInside? f m b outer v))

include hrec

theorem readInside?_open_agree (h : Trails s t) (hskip : f.skip s = '[' :: rest)
    (hlength : rest.length < n) :
    Agree Same₃ (readInside? f (n + 1) b outer s)
      (readInside? f (m + 1) b outer t) := by
  have hrest := trails_append rest
  have hclass := namedClass?_agree hrest
  have hsuffix : ∀ a, namedClass? rest = some a → a.2.2 <:+ rest :=
    fun a ha => namedClass?_suffix ha
  simp only [readInside?, hskip, h.skip_eq_cons hskip]
  generalize namedClass? rest = x at hclass hsuffix ⊢
  generalize namedClass? (rest ++ [')']) = y at hclass ⊢
  cases hclass with
  | @both a a' hsame =>
      obtain ⟨codes, negated, after⟩ := a
      obtain ⟨_, _, after'⟩ := a'
      obtain ⟨rfl, rfl, hafter⟩ := hsame
      have hle := (hsuffix _ rfl).length_le
      dsimp only at hle ⊢
      cases f.setOf? negated codes with
      | none => exact .neither
      | some codes => exact hrec _ _ hafter (show after.length < n by omega)
  | neither =>
      have hstart := start_same (f := f) hrest
      have hle := (start_suffix f rest).length_le
      dsimp only
      rw [← hstart.1]
      exact hrec _ _ hstart.2 (by omega)
  | stray hnot => exact hnot.elim

theorem readInside?_close_agree (h : Trails s t) (hskip : f.skip s = ']' :: rest)
    (hlength : rest.length < n) :
    Agree Same₃ (readInside? f (n + 1) b outer s)
      (readInside? f (m + 1) b outer t) := by
  simp only [readInside?, hskip, h.skip_eq_cons hskip]
  cases b.close? f with
  | none => exact .neither
  | some a =>
      cases outer with
      | nil => exact .both ⟨rfl, rfl, trails_append rest⟩
      | cons b outer => exact hrec _ _ (trails_append rest) hlength

theorem readInside?_item_agree (h : Trails s t) (hskip : f.skip s = c :: rest)
    (hopen : c ≠ '[') (hclose : c ≠ ']') (hoperator : ¬ IsOperator c rest)
    (hlength : rest.length < n) :
    Agree Same₃ (readInside? f (n + 1) b outer s)
      (readInside? f (m + 1) b outer t) := by
  rw [readInside?_item hskip hopen hclose hoperator,
    readInside?_item (h.skip_eq_cons hskip) hopen hclose
      (mt (isOperator_append c rest).mp hoperator)]
  refine (readRange?_keeps (trails_append (c :: rest))).bind ?_ ?_
  · rintro ⟨codes, after⟩ ⟨_, after'⟩ hrange ⟨rfl, hafter⟩
    obtain ⟨d, rest', heq, hsuffix⟩ := readRange?_suffix hrange
    cases heq
    have hle := hsuffix.length_le
    exact hrec _ _ hafter (show after.length < n by omega)
  · rintro ⟨codes, after⟩ hend
    rw [readInside?_of_skip (hend.skip_eq_nil f.skip_nil)]
    exact .neither

end Nested

theorem readInside?_agree (h : Trails s t) (hs : s.length < n) (hnm : n ≤ m)
    (b : Bracket) (outer : List Bracket) :
    Agree Same₃ (readInside? f n b outer s) (readInside? f m b outer t) := by
  induction n generalizing s t m b outer with
  | zero => omega
  | succ n ih =>
      obtain ⟨m, rfl⟩ : ∃ k, m = k + 1 := ⟨m - 1, by omega⟩
      have hrec : ∀ {u v : List Char} (b : Bracket) (outer : List Bracket),
          Trails u v → u.length < n →
            Agree Same₃ (readInside? f n b outer u) (readInside? f m b outer v) :=
        fun b outer h hu => ih h hu (by omega) b outer
      have hlength := (f.skip_suffix s).length_le
      cases hskip : f.skip s with
      | nil =>
          rw [readInside?_of_skip (.inr hskip),
            readInside?_of_skip (h.skip_eq_nil hskip)]
          exact .neither
      | cons c rest =>
          rw [hskip, List.length_cons] at hlength
          have hrest : rest.length < n := by omega
          by_cases hopen : c = '['
          · subst hopen
            exact readInside?_open_agree hrec h hskip hrest
          by_cases hclose : c = ']'
          · subst hclose
            exact readInside?_close_agree hrec h hskip hrest
          by_cases hoperator : IsOperator c rest
          · obtain ⟨hc, more, rfl⟩ := hoperator
            have hmore : more.length < n := by
              rw [List.length_cons] at hrest
              omega
            simp only [List.mem_cons, List.not_mem_nil, or_false] at hc
            obtain rfl | rfl | rfl := hc <;>
              simp only [readInside?, hskip, h.skip_eq_cons hskip,
                List.cons_append] <;>
              exact hrec _ _ (trails_append more) hmore
          exact readInside?_item_agree hrec h hskip hopen hclose hoperator hrest

end Bracket

theorem readBracket?_agree (h : Trails s t) :
    Agree Same₃ (readBracket? f s) (readBracket? f t) := by
  have hstart := Bracket.start_same (f := f) h
  have hlength := (Bracket.start_suffix f s).length_le
  have hle := h.length_le
  unfold readBracket?
  dsimp only
  rw [← hstart.1]
  exact Bracket.readInside?_agree hstart.2 (by omega) (by omega) _ _

end HostWatch.Pattern
