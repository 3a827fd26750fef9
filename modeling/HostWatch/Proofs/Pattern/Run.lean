/-
The reader of patterns as a machine that reads one element after the other.

A run goes from one state of the reader to another, and a text is well formed
if a run over it comes to the end with no group open (`read_eq_ok_iff`); where
a run comes to a halt elsewhere, that tells why a text is refused
(`ClosesEarly.read_eq`, `StaysOpen.read_eq`).

Two texts or two states can then be followed side by side: a text and the same
text with a parenthesis behind it (`Run.trails`, `Run.of_trails`), a state with
and without one more group around everything (`Run.inside`,
`Accepts.of_inside`), and two states that differ in patterns only, on which no
step depends (`Accepts.of_level`).
-/
import HostWatch.Proofs.Pattern.Parenthesis.Step
import Mathlib.Data.List.Forall2
import Mathlib.Logic.Relation

namespace HostWatch.Pattern

variable {r r' : Reading} {s s' t t' : List Char} {c : Char} {n : Nat}
    {a b d : Reading × List Char} {result : Pattern × Nat}

-- ==================================================== runs

/-- One element is read. -/
def Moves (a b : Reading × List Char) : Prop :=
  ∃ c rest, a.1.group.flags.skip a.2 = c :: rest ∧ step? a.1 c rest = some b

/-- Some elements are read, one after the other. -/
abbrev Run : Reading × List Char → Reading × List Char → Prop :=
  Relation.ReflTransGen Moves

/-- The reader goes on to the end of the text, where no group is open. -/
def Accepts (a : Reading × List Char) (result : Pattern × Nat) : Prop :=
  ∃ b, Run a b ∧ b.1.group.flags.skip b.2 = [] ∧ b.1.outer = []
    ∧ b.1.group.close = result

/-- Where the reader starts. -/
def Reading.start : Reading := { group := { flags := {} } }

theorem Moves.unique (hb : Moves a b) (hd : Moves a d) : b = d := by
  obtain ⟨c, rest, hskip, hstep⟩ := hb
  obtain ⟨c', rest', hskip', hstep'⟩ := hd
  rw [hskip] at hskip'
  cases hskip'
  exact Option.some.inj (hstep.symm.trans hstep')

/-- A state from which the reader does not move is the only one it comes to. -/
theorem Run.eq_of_stuck (h : Run a b) (hstuck : ∀ d, ¬ Moves a d) : b = a := by
  obtain rfl | ⟨d, hmoves, -⟩ := Relation.ReflTransGen.cases_head h
  · rfl
  · exact (hstuck d hmoves).elim

theorem not_moves_of_skip_eq_nil (h : a.1.group.flags.skip a.2 = []) :
    ¬ Moves a b := by
  rintro ⟨c, rest, hskip, -⟩
  rw [h] at hskip
  cases hskip

theorem Halted.not_moves (h : Halted a) : ¬ Moves a b := by
  rintro ⟨c, rest, hskip, hstep⟩
  rw [(h c rest hskip).2] at hstep
  cases hstep

theorem accepts_of_skip_eq_nil (h : r.group.flags.skip s = []) :
    Accepts (r, s) result ↔ r.outer = [] ∧ r.group.close = result := by
  constructor
  · rintro ⟨b, hrun, -, houter, hclose⟩
    cases hrun.eq_of_stuck fun _ => not_moves_of_skip_eq_nil h
    exact ⟨houter, hclose⟩
  · rintro ⟨houter, hclose⟩
    exact ⟨(r, s), .refl, h, houter, hclose⟩

theorem Moves.accepts_iff (h : Moves a b) : Accepts a result ↔ Accepts b result := by
  constructor
  · rintro ⟨d, hrun, hend, hd⟩
    obtain rfl | ⟨b', hmoves, hrun⟩ := Relation.ReflTransGen.cases_head hrun
    · exact (not_moves_of_skip_eq_nil hend h).elim
    · rw [h.unique hmoves]
      exact ⟨d, hrun, hend, hd⟩
  · rintro ⟨d, hrun, hd⟩
    exact ⟨d, .head h hrun, hd⟩

theorem Run.accepts_iff (h : Run a b) :
    Accepts a result ↔ Accepts b result := by
  induction h using Relation.ReflTransGen.head_induction_on with
  | refl => rfl
  | head hmoves _ ih => exact hmoves.accepts_iff.trans ih

theorem accepts_of_skip_eq_cons {rest : List Char}
    (h : r.group.flags.skip s = c :: rest) :
    Accepts (r, s) result ↔ ∃ a, step? r c rest = some a ∧ Accepts a result := by
  constructor
  · intro haccepts
    obtain ⟨b, hrun, hend, -⟩ := id haccepts
    obtain rfl | ⟨a, ⟨c', rest', hskip, hstep⟩, -⟩ :=
      Relation.ReflTransGen.cases_head hrun
    · rw [h] at hend
      cases hend
    · rw [h] at hskip
      cases hskip
      exact ⟨a, hstep, (Moves.accepts_iff ⟨c, rest, h, hstep⟩).mp haccepts⟩
  · rintro ⟨a, hstep, ha⟩
    exact (Moves.accepts_iff ⟨c, rest, h, hstep⟩).mpr ha

/-- The reader comes to the end whenever there is a run that does. -/
theorem readAll_eq_ok_iff (h : s.length < n) :
    readAll n r s = .ok result ↔ Accepts (r, s) result := by
  induction n generalizing r s with
  | zero => omega
  | succ n ih =>
      have hlength := (r.group.flags.skip_suffix s).length_le
      simp only [readAll]
      cases hskip : r.group.flags.skip s with
      | nil =>
          rw [accepts_of_skip_eq_nil hskip]
          by_cases houter : r.outer = [] <;> simp [houter]
      | cons c rest =>
          rw [hskip, List.length_cons] at hlength
          rw [accepts_of_skip_eq_cons hskip]
          cases hstep : step? r c rest with
          | none => simp [hstep]
          | some a =>
              have hle := (step?_suffix hstep).length_le
              simpa [hstep] using ih (r := a.1) (s := a.2) (by omega)

/-- What comes of a text is decided where a run has come to. -/
theorem Run.readAll_eq (h : Run (r, s) (r', s')) (hn : s.length < n) :
    ∃ m, s'.length < m ∧ readAll n r s = readAll m r' s' := by
  generalize ha : (r, s) = a at h
  induction h using Relation.ReflTransGen.head_induction_on
      generalizing r s n with
  | refl =>
      cases ha
      exact ⟨n, hn, rfl⟩
  | @head _ d hmoves _ ih =>
      cases ha
      obtain ⟨c, rest, hskip, hstep⟩ := hmoves
      obtain ⟨n, rfl⟩ : ∃ k, n = k + 1 := ⟨n - 1, by omega⟩
      have hlength := (r.group.flags.skip_suffix s).length_le
      rw [hskip, List.length_cons] at hlength
      have hle := (step?_suffix hstep).length_le
      obtain ⟨m, hm, heq⟩ := ih (r := d.1) (s := d.2) (n := n) (by omega) rfl
      refine ⟨m, hm, ?_⟩
      simp only [readAll, hskip, hstep]
      exact heq

-- ==================================================== texts

variable {text : String} {p : Pattern} {depth : Nat}

private theorem length_lt_fuel : text.toList.length < text.length + 1 := by
  rw [String.length_toList]
  omega

/-- The loop over the text comes first, and the limits come last. -/
private theorem read_eq : read text
    = match readAll (text.length + 1) .start text.toList with
      | .ok (p, depth) =>
        if depth ≤ depthLimit && p.isSmall then .ok p else .error .tooLarge
      | .error fault => .error fault := by
  unfold read
  rw [show ({ group := { flags := {} } } : Reading) = .start from rfl]
  cases readAll (text.length + 1) .start text.toList <;> rfl

/-- What is accepted is refused only if it is beyond the limits. -/
theorem Accepts.read_eq (h : Accepts (.start, text.toList) (p, depth)) :
    read text = if depth ≤ depthLimit && p.isSmall then .ok p
      else .error .tooLarge := by
  rw [Pattern.read_eq, (readAll_eq_ok_iff length_lt_fuel).mpr h]

theorem Accepts.read_or_tooLarge (h : Accepts (.start, text.toList) (p, depth)) :
    read text = .ok p ∨ read text = .error .tooLarge := by
  rw [h.read_eq]
  split
  · exact .inl rfl
  · exact .inr rfl

theorem read_eq_ok_iff :
    read text = .ok p ↔ ∃ depth, Accepts (.start, text.toList) (p, depth)
      ∧ depth ≤ depthLimit ∧ p.isSmall = true := by
  constructor
  · intro hread
    cases hall : readAll (text.length + 1) .start text.toList with
    | error fault =>
        rw [read_eq, hall] at hread
        cases hread
    | ok result =>
        obtain ⟨q, depth⟩ := result
        have haccepts := (readAll_eq_ok_iff length_lt_fuel).mp hall
        rw [haccepts.read_eq] at hread
        split at hread
        · rename_i hlimits
          cases hread
          rw [Bool.and_eq_true, decide_eq_true_eq] at hlimits
          exact ⟨depth, haccepts, hlimits⟩
        · cases hread
  · rintro ⟨depth, haccepts, hdepth, hsmall⟩
    rw [haccepts.read_eq, hsmall, decide_eq_true hdepth]
    rfl

/-- The reader comes to a closing parenthesis when no group is open. -/
def ClosesEarly (a : Reading × List Char) : Prop :=
  ∃ b rest, Run a b ∧ b.1.outer = [] ∧ b.1.group.flags.skip b.2 = ')' :: rest

/-- The reader comes to the end when a group is open. -/
def StaysOpen (a : Reading × List Char) : Prop :=
  ∃ b, Run a b ∧ b.1.outer ≠ [] ∧ b.1.group.flags.skip b.2 = []

/-- Where a run cannot go on, its last state tells why the text is refused. -/
private theorem Run.read_eq {fault : PatternFault}
    (h : Run (.start, text.toList) (r, s))
    (hhalt : ∀ m, readAll (m + 1) r s = .error fault) :
    read text = .error fault := by
  obtain ⟨m, hm, hread⟩ := h.readAll_eq length_lt_fuel
  obtain ⟨m, rfl⟩ : ∃ k, m = k + 1 := ⟨m - 1, by omega⟩
  rw [Pattern.read_eq, hread, hhalt]

theorem ClosesEarly.read_eq (h : ClosesEarly (.start, text.toList)) :
    read text = .error .unopened := by
  obtain ⟨b, rest, hrun, houter, hskip⟩ := h
  exact hrun.read_eq fun m => by simp [readAll, hskip, step?, houter]

theorem StaysOpen.read_eq (h : StaysOpen (.start, text.toList)) :
    read text = .error .unclosed := by
  obtain ⟨b, hrun, houter, hskip⟩ := h
  exact hrun.read_eq fun m => by simp [readAll, hskip, houter]

-- ==================================================== a parenthesis behind

theorem Run.trails (hrun : Run (r, s) (r', s')) (h : Trails s t) :
    ∃ t', Run (r, t) (r', t') ∧ Trails s' t' := by
  generalize ha : (r, s) = a at hrun
  induction hrun using Relation.ReflTransGen.head_induction_on
      generalizing r s t with
  | refl =>
      cases ha
      exact ⟨t, .refl, h⟩
  | head hmoves _ ih =>
      cases ha
      obtain ⟨c, rest, hskip, hstep⟩ := hmoves
      have hkeeps := step?_keeps (trails_append rest) r c
      rw [hstep] at hkeeps
      obtain ⟨⟨r₁, t₁⟩, hstep', heq, htrails⟩ := hkeeps.exists_of_some
      cases heq
      obtain ⟨t', hrun, ht'⟩ := ih htrails rfl
      exact ⟨t', .head ⟨c, _, h.skip_eq_cons hskip, hstep'⟩ hrun, ht'⟩

/-- A run over the text with the parenthesis is one over the text alone, unless
the reader gets hold of the parenthesis; then it gets no further. -/
theorem Run.of_trails (hrun : Run (r, t) (r', t')) (h : Trails s t) :
    (∃ s', Run (r, s) (r', s') ∧ Trails s' t') ∨ Halted (r', t') := by
  generalize ha : (r, t) = a at hrun
  induction hrun using Relation.ReflTransGen.head_induction_on
      generalizing r s t with
  | refl =>
      cases ha
      exact .inl ⟨s, .refl, h⟩
  | @head _ d hmoves hrun ih =>
      cases ha
      obtain ⟨c, rest, hskip, hstep⟩ := hmoves
      -- from a state in which it halts the reader does not go on
      have hhalted : Halted d → Halted (r', t') := by
        intro hd
        rw [Run.eq_of_stuck hrun fun _ => hd.not_moves]
        exact hd
      cases hs : r.group.flags.skip s with
      | nil =>
          -- the parenthesis is read as the end of a group
          have hend : rest = [] := by
            obtain ht | ht := h.skip_eq_nil hs <;> rw [hskip] at ht
            · cases ht
              rfl
            · cases ht
          subst hend
          exact .inr (hhalted (.of_atEnd (List.suffix_nil.mp (step?_suffix hstep))))
      | cons e more =>
          have heq := h.skip_eq_cons hs
          rw [hskip] at heq
          cases heq
          have hkeeps := step?_keeps (trails_append more) r c
          rw [hstep] at hkeeps
          cases hx : step? r c more with
          | none =>
              rw [hx] at hkeeps
              exact .inr (hhalted hkeeps.of_none)
          | some a =>
              rw [hx] at hkeeps
              obtain ⟨_, hsome, heq, htrails⟩ := hkeeps.exists_of_some
              cases hsome
              obtain ⟨s', hrun', hs'⟩ | hend := ih htrails (Prod.ext heq rfl)
              · exact .inl ⟨s', .head ⟨c, more, hs, hx⟩ hrun', hs'⟩
              · exact .inr hend

-- ==================================================== a group around it

/-- The reader with one more group around all others. -/
def Reading.inside (r : Reading) (g : Group) : Reading :=
  { r with outer := r.outer ++ [g] }

/-- The reader at the end of a group for which no other one was open. -/
def Reading.leave (r : Reading) (g : Group) : Reading :=
  let (pattern, depth) := r.group.close
  { r with group := g.add { pattern, depth := depth + 1 }, outer := [] }

variable {g : Group}

theorem enterNamed?_inside :
    enterNamed? (r.inside g) s
      = (enterNamed? r s).map fun a => (a.1.inside g, a.2) := by
  unfold enterNamed? Reading.inside
  dsimp only
  split
  · split <;> rfl
  · rfl

theorem enterFlags?_inside :
    enterFlags? (r.inside g) s
      = (enterFlags? r s).map fun a => (a.1.inside g, a.2) := by
  unfold enterFlags? Reading.inside
  dsimp only
  cases r.group.flags.read? _ with
  | none => rfl
  | some flags =>
      simp only [Option.bind_eq_bind, Option.bind_some]
      split
      · rfl
      · split <;> rfl
      · rfl

theorem enter?_inside :
    enter? (r.inside g) s
      = (enter? r s).map fun a => (a.1.inside g, a.2) := by
  unfold enter?
  rw [show (r.inside g).group = r.group from rfl]
  split
  · rfl
  · rfl
  · exact enterNamed?_inside
  · exact enterNamed?_inside
  · exact enterFlags?_inside
  · rfl

/-- One more group around all others makes no difference, except to the end of
a group. -/
theorem step?_inside (h : c = ')' → r.outer ≠ []) :
    step? (r.inside g) c s
      = (step? r c s).map fun a => (a.1.inside g, a.2) := by
  unfold step?
  rw [show (r.inside g).group = r.group from rfl]
  dsimp only
  split
  · cases Escape.read? r.group.flags s <;> rfl
  · cases readBracket? r.group.flags s <;> rfl
  · cases r.group.flags.dot? <;> rfl
  · rfl
  · rfl
  · rfl
  · simp [Option.map_map, Function.comp_def, Reading.inside]
  · simp [Option.map_map, Function.comp_def, Reading.inside]
  · simp [Option.map_map, Function.comp_def, Reading.inside]
  · cases readLimits? r.group.flags s with
    | none => rfl
    | some limits => simp [Option.map_map, Function.comp_def, Reading.inside]
  · exact enter?_inside
  · obtain ⟨parent, outer, houter⟩ := List.exists_cons_of_ne_nil (h rfl)
    simp [Reading.inside, houter]
  · rfl

theorem step?_inside_close (h : r.outer = []) :
    step? (r.inside g) ')' s = some (r.leave g, s) := by
  simp [step?, Reading.inside, Reading.leave, h]

theorem Run.inside (h : Run (r, s) (r', s')) (g : Group) :
    Run (r.inside g, s) (r'.inside g, s') := by
  generalize ha : (r, s) = a at h
  induction h using Relation.ReflTransGen.head_induction_on generalizing r s with
  | refl =>
      cases ha
      exact .refl
  | @head _ d hmoves _ ih =>
      cases ha
      obtain ⟨c, rest, hskip, hstep⟩ := hmoves
      have hopen : c = ')' → r.outer ≠ [] := by
        rintro rfl houter
        simp [step?, houter] at hstep
      refine .head ⟨c, rest, hskip, ?_⟩ (ih rfl)
      rw [step?_inside hopen, hstep]
      rfl

/-- A parenthesis with no group open inside ends the one around everything. -/
theorem Run.leave {rest : List Char} (h : Run (r, s) (r', s'))
    (houter : r'.outer = []) (hskip : r'.group.flags.skip s' = ')' :: rest)
    (g : Group) : Run (r.inside g, s) (r'.leave g, rest) :=
  (h.inside g).tail ⟨')', rest, hskip, step?_inside_close houter⟩

/-- With a group around everything, the reader comes to the end only if there is
a parenthesis that ends the group. -/
theorem Accepts.of_inside (h : Accepts (r.inside g, s) result) :
    ∃ r' s' rest, Run (r, s) (r', s') ∧ r'.outer = []
      ∧ r'.group.flags.skip s' = ')' :: rest ∧ Accepts (r'.leave g, rest) result := by
  obtain ⟨b, hrun, hend⟩ := h
  generalize ha : (r.inside g, s) = a at hrun
  induction hrun using Relation.ReflTransGen.head_induction_on
      generalizing r s with
  | refl =>
      cases ha
      obtain ⟨-, houter, -⟩ := hend
      simp [Reading.inside] at houter
  | @head _ d hmoves hrun ih =>
      cases ha
      obtain ⟨c, rest, hskip, hstep⟩ := hmoves
      by_cases hopen : c = ')' → r.outer ≠ []
      · rw [step?_inside hopen, Option.map_eq_some_iff] at hstep
        obtain ⟨⟨r₁, s₁⟩, hstep, heq⟩ := hstep
        obtain ⟨r', s', rest', hrun', h'⟩ := ih heq
        exact ⟨r', s', rest', .head ⟨c, rest, hskip, hstep⟩ hrun', h'⟩
      · rw [Classical.not_imp, not_not] at hopen
        obtain ⟨rfl, houter⟩ := hopen
        rw [step?_inside_close houter] at hstep
        cases hstep
        exact ⟨r, s, rest, .refl, houter, hskip, b, hrun, hend⟩

-- ==================================================== patterns aside

/-- Two groups in which the same can be read: their last elements can both be
repeated, or neither can. -/
def Group.Alike (g g' : Group) : Prop :=
  g.flags = g'.flags
    ∧ g.elements.head?.map (·.repeatable) = g'.elements.head?.map (·.repeatable)

/-- Two states of the reader with such groups. -/
def Reading.Alike (r r' : Reading) : Prop :=
  r.group.Alike r'.group ∧ List.Forall₂ Group.Alike r.outer r'.outer
    ∧ r.names = r'.names

theorem Group.Alike.refl (g : Group) : g.Alike g := ⟨rfl, rfl⟩

theorem Group.Alike.add {g g' : Group} (h : g.Alike g') {e e' : Element}
    (he : e.repeatable = e'.repeatable) : (g.add e).Alike (g'.add e') :=
  ⟨h.1, congrArg some he⟩

theorem Group.Alike.repeatLast? {g g' : Group} (h : g.Alike g') (min : Nat)
    (max : Option Nat) :
    Agree Group.Alike (g.repeatLast? min max) (g'.repeatLast? min max) := by
  obtain ⟨hflags, hlast⟩ := h
  unfold Group.repeatLast?
  cases helements : g.elements with
  | nil =>
      rw [helements] at hlast
      cases helements' : g'.elements with
      | nil => exact .neither
      | cons e' rest' => simp [helements'] at hlast
  | cons e rest =>
      rw [helements] at hlast
      cases helements' : g'.elements with
      | nil => simp [helements'] at hlast
      | cons e' rest' =>
          rw [helements', List.head?_cons, List.head?_cons, Option.map_some,
            Option.map_some, Option.some.injEq] at hlast
          dsimp only
          rw [hlast]
          split
          · exact .both ⟨hflags, rfl⟩
          · exact .neither

/-- Two states with the same text left, alike. -/
def Level (a b : Reading × List Char) : Prop := a.1.Alike b.1 ∧ a.2 = b.2

variable {r₁ r₂ : Reading}

theorem Reading.Alike.enter (h : r₁.Alike r₂) (flags : Flags)
    (captures : Bool) :
    (r₁.enter flags captures).Alike (r₂.enter flags captures) :=
  ⟨.refl _, .cons h.1 h.2.1, h.2.2⟩

theorem enterNamed?_alike (h : r₁.Alike r₂) :
    Agree Level (enterNamed? r₁ s) (enterNamed? r₂ s) := by
  unfold enterNamed?
  dsimp only
  rw [h.1.1, h.2.2]
  split
  · split
    · obtain ⟨hgroup, houter, -⟩ := h.enter r₂.group.flags true
      exact .both ⟨⟨hgroup, houter, rfl⟩, rfl⟩
    · exact .neither
  · exact .neither

theorem enterFlags?_alike (h : r₁.Alike r₂) :
    Agree Level (enterFlags? r₁ s) (enterFlags? r₂ s) := by
  unfold enterFlags?
  dsimp only
  rw [h.1.1]
  cases r₂.group.flags.read? _ with
  | none => exact .neither
  | some flags =>
      simp only [Option.bind_eq_bind, Option.bind_some]
      split
      · exact .both ⟨h.enter flags false, rfl⟩
      · split
        · exact .neither
        · exact .both ⟨⟨⟨rfl, rfl⟩, h.2⟩, rfl⟩
      · exact .neither

theorem enter?_alike (h : r₁.Alike r₂) :
    Agree Level (enter? r₁ s) (enter? r₂ s) := by
  unfold enter?
  rw [h.1.1]
  split
  · exact .neither
  · exact .neither
  · exact enterNamed?_alike h
  · exact enterNamed?_alike h
  · exact enterFlags?_alike h
  · exact .both ⟨h.enter _ true, rfl⟩

/-- What a step takes from the text, and whether it goes through, does not
depend on the patterns that have been read. -/
theorem step?_alike (h : r₁.Alike r₂) (c : Char) (s : List Char) :
    Agree Level (step? r₁ c s) (step? r₂ c s) := by
  have hadd : ∀ (e e' : Element) (t : List Char), e.repeatable = e'.repeatable →
      Agree Level
        (some ({ r₁ with group := r₁.group.add e }, t))
        (some ({ r₂ with group := r₂.group.add e' }, t)) :=
    fun e e' t he => .both ⟨⟨h.1.add he, h.2⟩, rfl⟩
  have hagain : ∀ min max (t : List Char), Agree Level
      ((r₁.group.repeatLast? min max).map fun group =>
        ({ r₁ with group }, dropLazy t))
      ((r₂.group.repeatLast? min max).map fun group =>
        ({ r₂ with group }, dropLazy t)) := by
    intro min max t
    exact (h.1.repeatLast? min max).map (fun _ _ hgroup => ⟨⟨hgroup, h.2⟩, rfl⟩)
      fun _ => id
  unfold step?
  dsimp only
  rw [h.1.1]
  split
  · cases Escape.read? r₂.group.flags s with
    | none => exact .neither
    | some escape => exact hadd _ _ _ rfl
  · cases readBracket? r₂.group.flags s with
    | none => exact .neither
    | some codes => exact hadd _ _ _ rfl
  · cases r₂.group.flags.dot? with
    | none => exact .neither
    | some p => exact hadd _ _ _ rfl
  · exact hadd _ _ _ rfl
  · exact hadd _ _ _ rfl
  · exact .both ⟨⟨⟨h.1.1, rfl⟩, h.2⟩, rfl⟩
  · exact hagain _ _ _
  · exact hagain _ _ _
  · exact hagain _ _ _
  · cases readLimits? r₂.group.flags s with
    | none => exact .neither
    | some limits => exact hagain _ _ _
  · exact enter?_alike h
  · obtain ⟨-, houter, hnames⟩ := h
    generalize r₁.outer = outer₁ at houter ⊢
    generalize r₂.outer = outer₂ at houter ⊢
    cases houter with
    | nil => exact .neither
    | cons hparent houter =>
        exact .both ⟨⟨hparent.add rfl, houter, hnames⟩, rfl⟩
  · exact hadd _ _ _ rfl

/-- So from two such states the reader comes to the end, or from neither. -/
theorem Accepts.of_level (haccepts : Accepts a result) (h : Level a b) :
    ∃ result', Accepts b result' := by
  obtain ⟨d, hrun, hskip, houter, -⟩ := haccepts
  induction hrun using Relation.ReflTransGen.head_induction_on
      generalizing b with
  | refl =>
      obtain ⟨⟨hgroup, houters, -⟩, htext⟩ := h
      rw [houter, List.forall₂_nil_left_iff] at houters
      rw [hgroup.1, htext] at hskip
      exact ⟨_, b, .refl, hskip, houters, rfl⟩
  | head hmoves _ ih =>
      obtain ⟨c, rest, hskip, hstep⟩ := hmoves
      have hagree := step?_alike h.1 c rest
      rw [hstep] at hagree
      obtain ⟨e, hstep', hlevel⟩ := hagree.exists_of_some
      obtain ⟨result', haccepts⟩ := ih hlevel
      rw [h.1.1.1, h.2] at hskip
      exact ⟨result', (Moves.accepts_iff ⟨c, rest, hskip, hstep'⟩).mpr haccepts⟩

end HostWatch.Pattern
