/-
The language of the patterns for names. It is not part of this library:
which texts are patterns, and what each of them matches, is left open.
-/
namespace HostWatch

/-- Why a text is not accepted as a pattern. -/
inductive PatternFault where
  /-- It closes a parenthesis that it has not opened. -/
  | unopened
  /-- It ends while a parenthesis is open. -/
  | unclosed
  /-- It is nested too deep, or takes too much memory. -/
  | tooLarge
  /-- It is malformed in another way. -/
  | malformed
deriving DecidableEq, Repr

/-- A language of patterns. -/
class PatternLanguage where
  /-- The test whether some part of a name matches, for a text that is a pattern. -/
  compile : String → Except PatternFault (String → Bool)

end HostWatch
