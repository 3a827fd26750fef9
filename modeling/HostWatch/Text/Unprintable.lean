/-
The characters that a quoted text shows by their number: controls, format
characters, every separator but the space, marks that attach to the
character before them, and code points that are private or that stand for
nothing. Two further kinds are decided one by one: fillers of the Korean
script show nothing and so are shown by number, and the two voiced sound
marks of half width show as characters of their own.
-/
import HostWatch.Text.Property

namespace HostWatch.Text

/-- Letters that show nothing. -/
def fillerCodes : CodeSet := .ofTable "115F-1160 3164 FFA0"

/-- The space, and marks that show as characters of their own. -/
def shownCodes : CodeSet := .ofTable "20 FF9E-FF9F"

/-- The code points that a quoted text shows by their number. -/
def unprintableCodes : CodeSet :=
  (CodeSet.unionAll [Category.codesOfAll (Category.others ++ Category.separators),
    Property.codes .graphemeExtend, fillerCodes]).difference shownCodes

/-- Whether a quoted text shows `c` by its number. -/
def isUnprintable (c : Char) : Bool :=
  if c.toNat < 0x7F then c.toNat < 0x20 else unprintableCodes.hasChar c

end HostWatch.Text
