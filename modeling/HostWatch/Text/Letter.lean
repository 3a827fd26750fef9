/-
ASCII letters, the only ones whose case matters to the formats.
-/

namespace HostWatch.Text

/-- An ASCII letter in lower case; any other character as it is. -/
def lowerChar (c : Char) : Char :=
  if 'A' ≤ c ∧ c ≤ 'Z' then Char.ofNat (c.toNat + 32) else c

/-- A text with its ASCII letters in lower case. -/
def lower (s : List Char) : List Char := s.map lowerChar

end HostWatch.Text
