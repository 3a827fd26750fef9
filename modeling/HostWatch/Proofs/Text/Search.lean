/-
Finding a part in a text.

Both searches go through a text from its front and try the part at each
place. `hasInfix` says whether the part occurs at all (`hasInfix_iff`), and
`before` is what stands in front of the first place where it does. Nothing
that follows an occurrence can move the first one, so `before` is settled by
the text up to it: if the part occurs nowhere earlier, not even across the
seam, it is all that stands in front (`before_append`), and otherwise it ends
where the earlier occurrence begins (`exists_eq_before_append`).
-/
import HostWatch.Text.Split
import Mathlib.Data.List.Infix

namespace HostWatch.Text

variable {part s : List Char}

-- ==================================================== occurrences

/-- A part is found exactly if the text is made of it and of what stands
around it. -/
theorem hasInfix_iff : hasInfix part s = true ↔ part <:+: s := by
  induction s with
  | nil => simp [hasInfix, List.isEmpty_iff]
  | cons c rest ih => simp [hasInfix, ih, List.infix_cons_iff]

/-- A part that has been put at the end is found. -/
theorem hasInfix_append (part s : List Char) :
    hasInfix part (s ++ part) = true := by
  rw [hasInfix_iff]
  exact (List.suffix_append s part).isInfix

-- ==================================================== the first one

/-- If the part occurs nowhere before it, it is found where it has been put. -/
theorem before_append {lead : List Char}
    (h : ¬ part <:+: lead ++ part.dropLast) (rest : List Char) :
    before part (lead ++ part ++ rest) = lead := by
  have hne : part ≠ [] := by
    rintro rfl
    exact h List.nil_infix
  induction lead with
  | nil =>
      obtain ⟨c, tail, rfl⟩ := List.exists_cons_of_ne_nil hne
      simp [before]
  | cons c lead ih =>
      have hlater : ¬ part <:+: lead ++ part.dropLast :=
        fun hoccurs => h (List.infix_cons hoccurs)
      have hnot : ¬ part <+: c :: (lead ++ part ++ rest) := by
        intro hbegins
        -- such an occurrence is over before the last character of the part
        refine h (List.IsPrefix.isInfix ?_)
        have hsplit : c :: (lead ++ part ++ rest)
            = (c :: lead ++ part.dropLast)
              ++ ([part.getLast hne] ++ rest) := by
          conv => lhs; rw [← List.dropLast_append_getLast hne]
          simp
        rw [hsplit] at hbegins
        apply List.prefix_of_prefix_length_le hbegins (List.prefix_append _ _)
        simp
        omega
      show before part (c :: (lead ++ part ++ rest)) = _
      unfold before
      rw [if_neg (by simpa using hnot), ih hlater]

/-- If the part occurs in a text, it is found there, whatever follows. -/
theorem exists_eq_before_append (h : part <:+: s) (rest : List Char) :
    ∃ after, s = before part (s ++ rest) ++ part ++ after := by
  induction s with
  | nil =>
      have hnil : part = [] := List.infix_nil.mp h
      subst hnil
      refine ⟨[], ?_⟩
      cases rest <;> simp [before]
  | cons c s ih =>
      show ∃ after, c :: s = before part (c :: (s ++ rest)) ++ part ++ after
      unfold before
      by_cases hbegins : part <+: c :: (s ++ rest)
      · rw [if_pos (by simpa using hbegins)]
        -- the part is no longer than the text, so it needs nothing of `rest`
        obtain ⟨after, hafter⟩ := List.prefix_of_prefix_length_le hbegins
          (List.prefix_append (c :: s) rest) h.length_le
        exact ⟨after, by simpa using hafter.symm⟩
      · rw [if_neg (by simpa using hbegins)]
        have hrest : part <:+: s := by
          rcases List.infix_cons_iff.mp h with hfirst | hlater
          · exact absurd (hfirst.trans (List.prefix_append (c :: s) rest))
              hbegins
          · exact hlater
        obtain ⟨after, hafter⟩ := ih hrest
        refine ⟨after, ?_⟩
        conv => lhs; rw [hafter]
        simp

end HostWatch.Text
