/-
What a closing parenthesis behind a text changes for the readers of patterns.

A text and the same text with a parenthesis behind it are read side by side.
As long as the reading of the first one goes through, the other one goes
through as well, comes to the same, and leaves the parenthesis behind
(`Trails`). The one exception is a comment at the end, which takes the
parenthesis with it; from then on nothing is left of either text.

Where the first reading fails for want of text, the second one can get hold
of the parenthesis. What it comes to then is a stray result, and `Keeps` says
which ones there are: nothing is left behind it (a flag as in `(?i`), or what
is left cannot be read on (a brace as in `\b{`). What needs an end of its own,
as brackets and limits do, has no stray results.
-/
import HostWatch.Proofs.Pattern.Remainder
import Mathlib.Data.Option.Basic

namespace HostWatch.Pattern

open Text (CodeSet)

-- ==================================================== texts side by side

/-- The second text is the first one with a closing parenthesis behind, or both
are at their ends. -/
def Trails (s t : List Char) : Prop := t = s ++ [')'] ∨ s = [] ∧ t = []

variable {s t : List Char} {f : Flags} {c : Char} {n m : Nat}

theorem trails_append (s : List Char) : Trails s (s ++ [')']) := .inl rfl

@[simp]
theorem trails_nil : Trails [] t ↔ t = [')'] ∨ t = [] := by
  simp [Trails]

@[simp]
theorem trails_cons : Trails (c :: s) t ↔ t = c :: (s ++ [')']) := by
  simp [Trails]

theorem Trails.trimStart (h : Trails s t) :
    Trails (Text.trimStart s) (Text.trimStart t) := by
  have hparen : Text.isBlank ')' = false := by decide
  obtain rfl | ⟨rfl, rfl⟩ := h
  · induction s with
    | nil => simp [Text.trimStart, hparen]
    | cons c s ih =>
        by_cases hc : Text.isBlank c = true
        · simpa [Text.trimStart, hc] using ih
        · simp [Text.trimStart, hc]
  · exact .inr ⟨rfl, rfl⟩

@[simp]
theorem Flags.skip_nil (f : Flags) : f.skip [] = [] := by
  simp [skip, dropBlanks]

theorem Flags.skip_cons (hcomment : c ≠ '#') (hblank : Text.isBlank c = false)
    (f : Flags) (s : List Char) : f.skip (c :: s) = c :: s := by
  simp [skip, dropBlanks, hcomment, hblank]

/-- A comment is the only thing to be skipped that takes the parenthesis. -/
theorem Trails.skip (h : Trails s t) (f : Flags) :
    Trails (f.skip s) (f.skip t) := by
  have hparen : Text.isBlank ')' = false := by decide
  have hdrop : ∀ inComment s,
      Trails (Flags.dropBlanks inComment s)
        (Flags.dropBlanks inComment (s ++ [')'])) := by
    intro inComment s
    induction s generalizing inComment with
    | nil => cases inComment <;> simp [Flags.dropBlanks, hparen]
    | cons c s ih =>
        simp only [Flags.dropBlanks, List.cons_append]
        split
        · exact ih _
        · split
          · exact ih _
          · split
            · exact ih _
            · simp
  unfold Flags.skip
  obtain rfl | ⟨rfl, rfl⟩ := h
  · split
    · exact hdrop false s
    · exact .inl rfl
  · exact .inr (by simp [Flags.dropBlanks])

/-- Both texts have the same beginning, or one of them has none at all. -/
theorem Trails.skip_eq_nil (h : Trails s t) (hs : f.skip s = []) :
    f.skip t = [')'] ∨ f.skip t = [] := by
  simpa [hs] using h.skip f

theorem Trails.skip_eq_cons {rest : List Char} (h : Trails s t)
    (hs : f.skip s = c :: rest) : f.skip t = c :: (rest ++ [')']) := by
  simpa [hs] using h.skip f

theorem Trails.length_le (h : Trails s t) : s.length ≤ t.length := by
  obtain rfl | ⟨rfl, rfl⟩ := h <;> simp

theorem drop_length_takeWhile (p : Char → Bool) (s : List Char) :
    s.drop (s.takeWhile p).length = s.dropWhile p := by
  induction s with
  | nil => rfl
  | cons c s ih => by_cases hc : p c = true <;> simp [hc, ih]

/-- The characters in front of the first one of some kind are the same, and
what begins there is again side by side; or there is no such character. -/
theorem Trails.dropWhile (h : Trails s t) (p : Char → Bool) :
    (s.takeWhile p = t.takeWhile p ∧ Trails (s.dropWhile p) (t.dropWhile p))
      ∨ (p ')' = true ∧ s.dropWhile p = [] ∧ t.dropWhile p = []) := by
  obtain rfl | ⟨rfl, rfl⟩ := h
  · induction s with
    | nil => by_cases hp : p ')' = true <;> simp [hp]
    | cons c s ih =>
        by_cases hc : p c = true
        · simpa [hc] using ih
        · simp [hc]
  · simp

-- ==================================================== readings side by side

/-- Of two readings, the second one comes to what belongs to the result of the
first one. If there is none, it fails as well or comes to something stray. -/
inductive Keeps {ρ : Type} (Belongs : ρ → ρ → Prop) (Stray : ρ → Prop) :
    Option ρ → Option ρ → Prop
  | both {a b : ρ} : Belongs a b → Keeps Belongs Stray (some a) (some b)
  | neither : Keeps Belongs Stray none none
  | stray {b : ρ} : Stray b → Keeps Belongs Stray none (some b)

/-- Two results are the same, and of what is left the same is true as of the
texts. -/
def Same {α : Type} (a b : α × List Char) : Prop := a.1 = b.1 ∧ Trails a.2 b.2

/-- Results of three parts are the same, too. -/
abbrev Same₃ {α β : Type} (a b : α × β × List Char) : Prop :=
  a.1 = b.1 ∧ Same a.2 b.2

/-- Two readings go through together or not at all. -/
abbrev Agree {ρ : Type} (Belongs : ρ → ρ → Prop) : Option ρ → Option ρ → Prop :=
  Keeps Belongs fun _ => False

/-- Nothing is left behind a result. -/
def AtEnd {α : Type} (a : α × List Char) : Prop := a.2 = []

namespace Keeps

variable {ρ σ : Type} {Belongs : ρ → ρ → Prop} {Stray Stray' : ρ → Prop}
    {Belongs' : σ → σ → Prop} {Stray'' : σ → Prop} {x y : Option ρ}

theorem exists_of_some {a : ρ} (h : Keeps Belongs Stray (some a) y) :
    ∃ b, y = some b ∧ Belongs a b := by
  cases h with
  | both h => exact ⟨_, rfl, h⟩

theorem of_none {b : ρ} (h : Keeps Belongs Stray none (some b)) : Stray b := by
  cases h with
  | stray h => exact h

theorem mono (h : Keeps Belongs Stray x y) (hstray : ∀ b, Stray b → Stray' b) :
    Keeps Belongs Stray' x y := by
  cases h with
  | both h => exact .both h
  | neither => exact .neither
  | stray h => exact .stray (hstray _ h)

theorem of_agree (h : Agree Belongs x y) : Keeps Belongs Stray x y :=
  h.mono fun _ h => h.elim

theorem bind (h : Keeps Belongs Stray x y) {g g' : ρ → Option σ}
    (hboth : ∀ a b, x = some a → Belongs a b →
      Keeps Belongs' Stray'' (g a) (g' b))
    (hstray : ∀ b, Stray b → Keeps Belongs' Stray'' none (g' b)) :
    Keeps Belongs' Stray'' (x.bind g) (y.bind g') := by
  cases h with
  | both h => exact hboth _ _ rfl h
  | neither => exact .neither
  | stray h => exact hstray _ h

theorem map (h : Keeps Belongs Stray x y) {g g' : ρ → σ}
    (hboth : ∀ a b, Belongs a b → Belongs' (g a) (g' b))
    (hstray : ∀ b, Stray b → Stray'' (g' b)) :
    Keeps Belongs' Stray'' (x.map g) (y.map g') := by
  cases h with
  | both h => exact .both (hboth _ _ h)
  | neither => exact .neither
  | stray h => exact .stray (hstray _ h)

end Keeps

/-- What is made of a result without looking at what is left changes nothing. -/
theorem Keeps.onward {α β : Type} {x y : Option (α × List Char)}
    (h : Keeps Same AtEnd x y) {g : α × List Char → Option (β × List Char)}
    (hg : ∀ a s, g (a, s) = (g (a, [])).map fun b => (b.1, s)) :
    Keeps Same AtEnd (x.bind g) (y.bind g) := by
  refine h.bind ?_ ?_
  · rintro ⟨a, s⟩ ⟨_, t⟩ - ⟨rfl, h⟩
    rw [hg a s, hg a t]
    cases g (a, []) with
    | none => exact .neither
    | some b => exact .both ⟨rfl, h⟩
  · rintro ⟨a, s⟩ rfl
    rw [hg a []]
    cases g (a, []) with
    | none => exact .neither
    | some b => exact .stray rfl

-- ==================================================== escapes

namespace Escape

theorem takeBraced?_agree (h : Trails s t) (inComment : Bool) :
    Agree Same (takeBraced? f inComment s) (takeBraced? f inComment t) := by
  have hparen : Text.isBlank ')' = false := by decide
  obtain rfl | ⟨rfl, rfl⟩ := h
  · induction s generalizing inComment with
    | nil =>
        cases inComment <;> simp [takeBraced?, hparen] <;> exact .neither
    | cons c s ih =>
        simp only [takeBraced?, List.cons_append]
        split
        · exact ih _
        · split
          · exact ih _
          · split
            · exact ih _
            · split
              · exact .both ⟨rfl, .inl rfl⟩
              · refine (ih _).map ?_ (fun _ h => h)
                rintro ⟨inside, after⟩ ⟨_, after'⟩ ⟨rfl, h⟩
                exact ⟨rfl, h⟩
  · exact .neither

theorem takeBraced?_onward (h : Trails s t)
    {g : List Char × List Char → Option (Escape × List Char)}
    (hg : ∀ inside s, g (inside, s) = (g (inside, [])).map fun b => (b.1, s)) :
    Keeps Same AtEnd ((takeBraced? f false s).bind g)
      ((takeBraced? f false t).bind g) :=
  (Keeps.of_agree (takeBraced?_agree h false)).onward hg

theorem takeChars?_keeps (h : Trails s t) (n : Nat) :
    Keeps Same AtEnd (takeChars? f n s) (takeChars? f n t) := by
  induction n generalizing s t with
  | zero => exact .both ⟨rfl, h⟩
  | succ n ih =>
      simp only [takeChars?]
      cases hs : f.skip s with
      | nil =>
          obtain ht | ht := h.skip_eq_nil hs <;> simp only [ht]
          · cases n with
            | zero => exact .stray rfl
            | succ n =>
                simp only [takeChars?, Flags.skip_nil]
                exact .neither
          · exact .neither
      | cons c rest =>
          simp only [h.skip_eq_cons hs]
          refine (ih (trails_append rest)).map ?_ (fun _ h => h)
          rintro ⟨chars, after⟩ ⟨_, after'⟩ ⟨rfl, h⟩
          exact ⟨rfl, h⟩

theorem readNumber?_keeps (h : Trails s t) (width : Nat) :
    Keeps Same AtEnd (readNumber? f width s) (readNumber? f width t) := by
  unfold readNumber?
  simp only [Option.bind_eq_bind]
  cases hs : f.skip s with
  | nil =>
      obtain ht | ht := h.skip_eq_nil hs <;> simp only [ht]
      · refine (takeChars?_keeps (trails_append []) width).onward ?_
        intro digits s
        simp [Option.map_bind, apply_ite]
      · refine (takeChars?_keeps (.inr ⟨rfl, rfl⟩) width).onward ?_
        intro digits s
        simp [Option.map_bind, apply_ite]
  | cons c rest =>
      simp only [h.skip_eq_cons hs]
      split
      · rename_i heq
        cases heq
        refine takeBraced?_onward (trails_append rest) ?_
        intro digits s
        simp [Option.map_bind]
      · rename_i hbrace
        split
        · rename_i heq
          cases heq
          exact (hbrace rest rfl).elim
        · refine (takeChars?_keeps (trails_append (c :: rest)) width).onward ?_
          intro digits s
          simp [Option.map_bind, apply_ite]

theorem readNamed?_keeps (h : Trails s t) (negated : Bool) :
    Keeps Same AtEnd (readNamed? f negated s) (readNamed? f negated t) := by
  simp only [readNamed?, Option.bind_eq_bind]
  split
  · exact .neither
  · cases hs : f.skip s with
    | nil =>
        obtain ht | ht := h.skip_eq_nil hs <;> simp only [ht]
        · have hone : Keeps Same AtEnd none (some ([')'], ([] : List Char))) :=
            .stray rfl
          refine hone.onward ?_
          intro description s
          simp [Option.map_bind]
        · exact .neither
    | cons c rest =>
        simp only [h.skip_eq_cons hs]
        split
        · rename_i heq
          cases heq
          refine takeBraced?_onward (trails_append rest) ?_
          intro description s
          simp [Option.map_bind]
        · rename_i hbrace heq
          cases heq
          split
          · rename_i heq
            cases heq
            exact (hbrace rfl).elim
          · rename_i heq
            cases heq
            have hone : Keeps Same AtEnd (some ([c], rest))
                (some ([c], rest ++ [')'])) :=
              .both ⟨rfl, trails_append rest⟩
            refine hone.onward ?_
            intro description s
            simp [Option.map_bind]
          · rename_i heq
            cases heq
        · rename_i heq
          cases heq

/-- What can be left behind an escape that has got hold of the parenthesis:
nothing, or limits without a number, if the escape is a position. -/
def Stray (f : Flags) (e : Escape × List Char) : Prop :=
  e.2 = [] ∨ (∃ a, e.1 = .assertion a)
    ∧ ∃ limits, e.2 = '\x7b' :: limits ∧ f.skip limits = [')']

theorem readWordSpot?_keeps (h : Trails s t) :
    Keeps Same (Stray f) (readWordSpot? f s) (readWordSpot? f t) := by
  have hplain : ∀ {s t}, Trails s t → Keeps Same (Stray f)
      (some (.assertion (.word f.ascii .boundary), s))
      (some (.assertion (.word f.ascii .boundary), t)) :=
    fun h => .both ⟨rfl, h⟩
  obtain rfl | ⟨rfl, rfl⟩ := h
  · cases s with
    | nil => exact hplain (trails_append [])
    | cons c rest =>
        unfold readWordSpot?
        simp only [List.cons_append, Option.bind_eq_bind]
        split
        · rename_i heq
          cases heq
          cases hs : f.skip rest with
          | nil =>
              obtain ht | ht := (trails_append rest).skip_eq_nil hs
              · simp only [ht]
                rw [if_neg (by decide)]
                exact .stray (.inr ⟨⟨_, rfl⟩, _, rfl, ht⟩)
              · simp only [ht]
                exact .neither
          | cons d more =>
              simp only [(trails_append rest).skip_eq_cons hs]
              split
              · refine (takeBraced?_onward (trails_append rest) ?_).mono
                  fun _ => .inl
                intro word s
                simp [Option.map_bind]
              · exact hplain (trails_append ('\x7b' :: rest))
        · rename_i hbrace
          split
          · rename_i heq
            cases heq
            exact (hbrace rest rfl).elim
          · exact hplain (trails_append (c :: rest))
  · exact hplain (.inr ⟨rfl, rfl⟩)

theorem read?_keeps (h : Trails s t) :
    Keeps Same (Stray f) (read? f s) (read? f t) := by
  obtain rfl | ⟨rfl, rfl⟩ := h
  · cases s with
    | nil => exact .stray (.inl rfl)
    | cons c rest =>
        have hrest := trails_append rest
        rw [List.cons_append]
        by_cases hspecial : c ∈ ['x', 'u', 'U', 'p', 'P', 'b']
        · simp only [List.mem_cons, List.not_mem_nil, or_false] at hspecial
          obtain rfl | rfl | rfl | rfl | rfl | rfl := hspecial
          · exact (readNumber?_keeps hrest 2).mono fun _ => .inl
          · exact (readNumber?_keeps hrest 4).mono fun _ => .inl
          · exact (readNumber?_keeps hrest 8).mono fun _ => .inl
          · exact (readNamed?_keeps hrest false).mono fun _ => .inl
          · exact (readNamed?_keeps hrest true).mono fun _ => .inl
          · exact readWordSpot?_keeps hrest
        · simp only [List.mem_cons, List.not_mem_nil, or_false, not_or] at hspecial
          unfold read?
          simp only [hspecial, imp_self]
          split
          · exact .both ⟨rfl, hrest⟩
          · split
            · exact .both ⟨rfl, hrest⟩
            · cases f.classOf? c with
              | none => exact .neither
              | some codes => exact .both ⟨rfl, hrest⟩
  · exact .neither

end Escape

end HostWatch.Pattern
