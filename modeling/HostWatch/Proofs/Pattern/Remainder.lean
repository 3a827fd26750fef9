/-
What the readers of patterns leave is the end of what they were given.
-/
import HostWatch.Pattern.Reader
import Mathlib.Data.List.Basic

namespace HostWatch.Pattern

variable {f : Flags} {s after : List Char} {n : Nat}

theorem Flags.dropBlanks_suffix (inComment : Bool) (s : List Char) :
    dropBlanks inComment s <:+ s := by
  fun_induction dropBlanks inComment s with
  | case1 => exact List.suffix_rfl
  | case2 c rest ih => exact ih.trans (List.suffix_cons c rest)
  | case3 inComment c rest _ _ ih => exact ih.trans (List.suffix_cons c rest)
  | case4 inComment c rest _ _ _ ih => exact ih.trans (List.suffix_cons c rest)
  | case5 => exact List.suffix_rfl

theorem Flags.skip_suffix (f : Flags) (s : List Char) : f.skip s <:+ s := by
  unfold skip
  split
  · exact dropBlanks_suffix false s
  · exact List.suffix_rfl

/-- What stands behind the first character that is not skipped. -/
theorem Flags.suffix_of_skip {c : Char} {rest : List Char}
    (h : f.skip s = c :: rest) : rest <:+ s :=
  (List.suffix_cons c rest).trans (h ▸ f.skip_suffix s)

namespace Escape

variable {escape : Escape}

theorem takeBraced?_suffix {inside : List Char} {inComment : Bool}
    (h : takeBraced? f inComment s = some (inside, after)) : after <:+ s := by
  fun_induction takeBraced? f inComment s generalizing inside with
  | case1 => cases h
  | case2 c rest ih => exact (ih h).trans (List.suffix_cons c rest)
  | case3 inComment c rest _ _ ih => exact (ih h).trans (List.suffix_cons c rest)
  | case4 inComment c rest _ _ _ ih =>
      exact (ih h).trans (List.suffix_cons c rest)
  | case5 inComment c rest =>
      cases h
      exact List.suffix_cons c _
  | case6 inComment c rest _ _ _ _ ih =>
      obtain ⟨⟨inside', after'⟩, hrest, heq⟩ := Option.map_eq_some_iff.mp h
      cases heq
      exact (ih hrest).trans (List.suffix_cons c rest)

theorem takeChars?_suffix {chars : List Char}
    (h : takeChars? f n s = some (chars, after)) : after <:+ s := by
  induction n generalizing s chars with
  | zero =>
      cases h
      exact List.suffix_rfl
  | succ n ih =>
      simp only [takeChars?] at h
      split at h
      · cases h
      · rename_i c rest hskip
        obtain ⟨⟨chars', after'⟩, hrest, heq⟩ := Option.map_eq_some_iff.mp h
        cases heq
        exact (ih hrest).trans (Flags.suffix_of_skip hskip)

theorem readNumber?_suffix {width : Nat}
    (h : readNumber? f width s = some (escape, after)) : after <:+ s := by
  unfold readNumber? at h
  split at h
  · rename_i rest hskip
    simp only [Option.bind_eq_bind, Option.bind_eq_some_iff] at h
    obtain ⟨⟨digits, _⟩, hdigits, c, -, heq⟩ := h
    cases heq
    exact (takeBraced?_suffix hdigits).trans (Flags.suffix_of_skip hskip)
  · simp only [Option.bind_eq_bind, Option.bind_eq_some_iff] at h
    obtain ⟨⟨digits, _⟩, hdigits, c, -, heq⟩ := h
    split at heq
    · cases heq
    · cases heq
      exact (takeChars?_suffix hdigits).trans (f.skip_suffix s)

theorem readNamed?_suffix {negated : Bool}
    (h : readNamed? f negated s = some (escape, after)) : after <:+ s := by
  simp only [readNamed?, Option.bind_eq_bind, Option.ite_none_left_eq_some] at h
  obtain ⟨-, h⟩ := h
  split at h
  · rename_i rest hskip
    simp only [Option.bind_eq_some_iff] at h
    obtain ⟨⟨description, _⟩, hdescription, _, -, _, -, heq⟩ := h
    cases heq
    exact (takeBraced?_suffix hdescription).trans (Flags.suffix_of_skip hskip)
  · rename_i c rest _ hskip
    simp only [Option.bind_eq_some_iff] at h
    obtain ⟨_, hone, _, -, _, -, heq⟩ := h
    cases hone
    cases heq
    exact Flags.suffix_of_skip hskip
  · cases h

theorem readWordSpot?_suffix
    (h : readWordSpot? f s = some (escape, after)) : after <:+ s := by
  unfold readWordSpot? at h
  split at h
  · rename_i rest
    split at h
    · cases h
    · rename_i hskip
      split at h
      · simp only [Option.bind_eq_bind, Option.bind_eq_some_iff] at h
        obtain ⟨⟨word, _⟩, hword, _, -, heq⟩ := h
        cases heq
        exact (takeBraced?_suffix hword).trans (List.suffix_cons _ rest)
      · cases h
        exact List.suffix_rfl
  · cases h
    exact List.suffix_rfl

theorem read?_suffix (h : read? f s = some (escape, after)) : after <:+ s := by
  unfold read? at h
  split at h
  · cases h
  · exact (readNumber?_suffix h).trans (List.suffix_cons ..)
  · exact (readNumber?_suffix h).trans (List.suffix_cons ..)
  · exact (readNumber?_suffix h).trans (List.suffix_cons ..)
  · exact (readNamed?_suffix h).trans (List.suffix_cons ..)
  · exact (readNamed?_suffix h).trans (List.suffix_cons ..)
  · exact (readWordSpot?_suffix h).trans (List.suffix_cons ..)
  · split at h
    · cases h
      exact List.suffix_cons ..
    · split at h
      · cases h
        exact List.suffix_cons ..
      · obtain ⟨_, -, heq⟩ := Option.map_eq_some_iff.mp h
        cases heq
        exact List.suffix_cons ..

end Escape

-- ==================================================== brackets

theorem namedClass?_suffix {codes : Text.CodeSet} {negated : Bool}
    (h : namedClass? s = some (codes, negated, after)) : after <:+ s := by
  simp only [namedClass?, Text.dropPrefix?, Option.bind_eq_bind,
    Option.bind_eq_some_iff, Option.ite_none_right_eq_some] at h
  obtain ⟨inside, ⟨-, hinside⟩, behind, ⟨-, hbehind⟩, _, -, heq⟩ := h
  cases heq
  cases hinside
  cases hbehind
  refine (List.drop_suffix _ _).trans ((List.drop_suffix _ _).trans ?_)
  split
  · exact (List.drop_suffix _ _).trans (List.drop_suffix _ _)
  · exact List.drop_suffix _ _

namespace Bracket

theorem takeHyphens_suffix (f : Flags) (n : Nat) (b : Bracket) (s : List Char) :
    (takeHyphens f n b s).2 <:+ s := by
  induction n generalizing b s with
  | zero => exact List.suffix_rfl
  | succ n ih =>
      simp only [takeHyphens]
      split
      · rename_i hskip
        exact (ih ..).trans (Flags.suffix_of_skip hskip)
      · exact f.skip_suffix s

theorem start_suffix (f : Flags) (s : List Char) : (start f s).2 <:+ s := by
  have hhyphens : ∀ (n : Nat) (b : Bracket),
      (takeHyphens f n b
        (if (f.skip s).head? == some '^' then (f.skip s).drop 1 else f.skip s)).2
          <:+ s := by
    intro n b
    refine (takeHyphens_suffix f n b _).trans ?_
    split
    · exact (List.drop_suffix _ _).trans (f.skip_suffix s)
    · exact f.skip_suffix s
  unfold start
  dsimp only
  split
  · rename_i heq
    have h := heq ▸ hhyphens _ _
    split
    · exact (List.suffix_cons _ _).trans h
    · exact h
  · rename_i heq
    exact heq ▸ hhyphens _ _

theorem readItem?_suffix {escape : Escape}
    (h : readItem? f s = some (escape, after)) :
    ∃ c rest, s = c :: rest ∧ after <:+ rest := by
  unfold readItem? at h
  split at h
  · cases h
  · exact ⟨_, _, rfl, Escape.read?_suffix h⟩
  · cases h
    exact ⟨_, _, rfl, List.suffix_rfl⟩

theorem readRange?_suffix {codes : Text.CodeSet}
    (h : readRange? f s = some (codes, after)) :
    ∃ c rest, s = c :: rest ∧ after <:+ rest := by
  simp only [readRange?, Option.bind_eq_bind, Option.bind_eq_some_iff] at h
  obtain ⟨⟨first, behind⟩, hfirst, h⟩ := h
  obtain ⟨c, rest, rfl, hbehind⟩ := readItem?_suffix hfirst
  refine ⟨c, rest, rfl, List.IsSuffix.trans ?_ hbehind⟩
  split at h
  · cases h
  · rename_i more hskip
    split at h
    · obtain ⟨_, -, heq⟩ := Option.bind_eq_some_iff.mp h
      cases heq
      exact hskip ▸ f.skip_suffix behind
    · simp only [Option.bind_eq_some_iff] at h
      obtain ⟨⟨last, _⟩, hlast, low, -, high, -, h⟩ := h
      obtain ⟨d, more', hmore, hlast⟩ := readItem?_suffix hlast
      split at h
      · cases h
        exact hlast.trans ((Flags.suffix_of_skip hmore).trans
          (Flags.suffix_of_skip hskip))
      · cases h
  · obtain ⟨_, -, heq⟩ := Option.bind_eq_some_iff.mp h
    cases heq
    exact f.skip_suffix behind

theorem readInside?_suffix {b : Bracket} {outer : List Bracket}
    {codes : Text.CodeSet} {depth : Nat}
    (h : readInside? f n b outer s = some (codes, depth, after)) :
    after <:+ s := by
  induction n generalizing b outer s with
  | zero => cases h
  | succ n ih =>
      simp only [readInside?] at h
      split at h
      · cases h
      · rename_i rest hskip
        refine List.IsSuffix.trans ?_ (Flags.suffix_of_skip hskip)
        split at h
        · rename_i hclass
          obtain ⟨_, -, h⟩ := Option.bind_eq_some_iff.mp h
          exact (ih h).trans (namedClass?_suffix hclass)
        · exact (ih h).trans (start_suffix f rest)
      · rename_i rest hskip
        refine List.IsSuffix.trans ?_ (Flags.suffix_of_skip hskip)
        obtain ⟨_, -, h⟩ := Option.bind_eq_some_iff.mp h
        split at h
        · cases h
          exact List.suffix_rfl
        · exact ih h
      · rename_i hskip
        exact (ih h).trans ((List.suffix_cons ..).trans (Flags.suffix_of_skip hskip))
      · rename_i hskip
        exact (ih h).trans ((List.suffix_cons ..).trans (Flags.suffix_of_skip hskip))
      · rename_i hskip
        exact (ih h).trans ((List.suffix_cons ..).trans (Flags.suffix_of_skip hskip))
      · obtain ⟨⟨_, _⟩, hrange, h⟩ := Option.bind_eq_some_iff.mp h
        obtain ⟨c, rest, hskip, hafter⟩ := readRange?_suffix hrange
        exact (ih h).trans (hafter.trans (Flags.suffix_of_skip hskip))

end Bracket

theorem readBracket?_suffix {codes : Text.CodeSet} {depth : Nat}
    (h : readBracket? f s = some (codes, depth, after)) : after <:+ s :=
  (Bracket.readInside?_suffix h).trans (Bracket.start_suffix f s)

-- ==================================================== elements

theorem trimStart_suffix (s : List Char) : Text.trimStart s <:+ s :=
  List.dropWhile_suffix _

theorem takeDigits_suffix (f : Flags) (n : Nat) (s : List Char) :
    (takeDigits f n s).2 <:+ s := by
  induction n generalizing s with
  | zero => exact List.suffix_rfl
  | succ n ih =>
      simp only [takeDigits]
      split
      · exact List.suffix_rfl
      · rename_i c rest
        split
        · exact (ih _).trans ((f.skip_suffix rest).trans (List.suffix_cons c rest))
        · exact List.suffix_rfl

theorem readCount?_suffix {count : Nat}
    (h : readCount? f s = some (count, after)) : after <:+ s := by
  obtain ⟨_, -, heq⟩ := Option.map_eq_some_iff.mp h
  cases heq
  exact (f.skip_suffix _).trans ((trimStart_suffix _).trans
    ((takeDigits_suffix f _ _).trans (trimStart_suffix s)))

theorem readLimits?_suffix {min : Nat} {max : Option Nat}
    (h : readLimits? f s = some (min, max, after)) : after <:+ s := by
  simp only [readLimits?, Option.bind_eq_bind, Option.bind_eq_some_iff] at h
  obtain ⟨⟨least, rest⟩, hleast, h⟩ := h
  have hrest := (readCount?_suffix hleast).trans (f.skip_suffix s)
  split at h
  · rename_i heq
    cases h
    exact (heq ▸ List.suffix_cons ..).trans hrest
  · rename_i more heq
    have hmore := (heq ▸ List.suffix_cons _ more).trans hrest
    split at h
    · rename_i hskip
      cases h
      exact (Flags.suffix_of_skip hskip).trans hmore
    · obtain ⟨⟨most, behind⟩, hmost, h⟩ := Option.bind_eq_some_iff.mp h
      have hbehind := (readCount?_suffix hmost).trans
        ((f.skip_suffix more).trans hmore)
      split at h
      · rename_i heq'
        split at h
        · cases h
          exact (heq' ▸ List.suffix_cons ..).trans hbehind
        · cases h
      · cases h
  · cases h

theorem dropLazy_suffix (s : List Char) : dropLazy s <:+ s := by
  unfold dropLazy
  split
  · exact List.suffix_cons ..
  · exact List.suffix_rfl

variable {r r' : Reading}

theorem enterNamed?_suffix (h : enterNamed? r s = some (r', after)) :
    after <:+ s := by
  unfold enterNamed? at h
  dsimp only at h
  split at h
  · rename_i heq
    split at h
    · cases h
      exact (heq ▸ List.suffix_cons ..).trans (List.drop_suffix _ s)
    · cases h
  · cases h

theorem enterFlags?_suffix (h : enterFlags? r s = some (r', after)) :
    after <:+ s := by
  simp only [enterFlags?, Option.bind_eq_bind, Option.bind_eq_some_iff] at h
  obtain ⟨flags, -, h⟩ := h
  split at h
  · rename_i heq
    cases h
    exact (heq ▸ List.suffix_cons ..).trans (List.drop_suffix _ s)
  · rename_i heq
    split at h
    · cases h
    · cases h
      exact (heq ▸ List.suffix_cons ..).trans (List.drop_suffix _ s)
  · cases h

theorem enter?_suffix (h : enter? r s = some (r', after)) : after <:+ s := by
  unfold enter? at h
  refine List.IsSuffix.trans ?_ (r.group.flags.skip_suffix s)
  split at h
  · cases h
  · cases h
  · rename_i heq
    exact heq ▸ (enterNamed?_suffix h).trans ⟨['?', 'P', '<'], rfl⟩
  · rename_i heq
    exact heq ▸ (enterNamed?_suffix h).trans ⟨['?', '<'], rfl⟩
  · rename_i heq
    exact heq ▸ (enterFlags?_suffix h).trans ⟨['?'], rfl⟩
  · cases h
    exact List.suffix_rfl

/-- A step leaves no more than stands behind the first character. -/
theorem step?_suffix {c : Char} {rest : List Char}
    (h : step? r c rest = some (r', after)) : after <:+ rest := by
  unfold step? at h
  dsimp only at h
  split at h
  · obtain ⟨⟨escape, _⟩, hescape, heq⟩ := Option.bind_eq_some_iff.mp h
    cases heq
    exact Escape.read?_suffix hescape
  · obtain ⟨⟨codes, depth, _⟩, hbracket, heq⟩ := Option.map_eq_some_iff.mp h
    cases heq
    exact readBracket?_suffix hbracket
  · obtain ⟨_, -, heq⟩ := Option.bind_eq_some_iff.mp h
    cases heq
    exact List.suffix_rfl
  · cases h
    exact List.suffix_rfl
  · cases h
    exact List.suffix_rfl
  · cases h
    exact List.suffix_rfl
  · obtain ⟨_, -, heq⟩ := Option.map_eq_some_iff.mp h
    cases heq
    exact dropLazy_suffix rest
  · obtain ⟨_, -, heq⟩ := Option.map_eq_some_iff.mp h
    cases heq
    exact dropLazy_suffix rest
  · obtain ⟨_, -, heq⟩ := Option.map_eq_some_iff.mp h
    cases heq
    exact dropLazy_suffix rest
  · obtain ⟨⟨min, max, behind⟩, hlimits, h⟩ := Option.bind_eq_some_iff.mp h
    obtain ⟨_, -, heq⟩ := Option.map_eq_some_iff.mp h
    cases heq
    exact (dropLazy_suffix _).trans
      ((Flags.skip_suffix _ behind).trans (readLimits?_suffix hlimits))
  · exact enter?_suffix h
  · split at h
    · cases h
    · cases h
      exact List.suffix_rfl
  · cases h
    exact List.suffix_rfl

end HostWatch.Pattern
