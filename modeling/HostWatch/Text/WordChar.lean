/-
Characters that count as parts of words, in all scripts.

Patterns and the names of variables draw the line differently. A pattern's
word has letters, marks, decimal digits, connecting punctuation and
joiners, but none of the characters that the latest edition of the
standard has added. A variable's name has letters and numbers of any kind.
-/
import HostWatch.Text.Property

namespace HostWatch.Text

/-- The code points that stand for a character only since the latest edition of the standard. -/
def latestCodes : CodeSet := .ofTable
  "88F C5C CDC 1ACF-1ADD 1AE0-1AEB 20C1 2B96 A7CE-A7CF A7D2 A7D4 A7F1 FBC3-FBD2 FD90-FD91
   FDC8-FDCE 10940-10959 10EC5-10EC7 10ED0-10ED8 10EFA-10EFB 11B60-11B67 11DB0-11DDB
   11DE0-11DE9 16EA0-16EB8 16EBB-16ED3 16FF2-16FF6 187F8-187FF 18D09-18D1E 18D80-18DF2
   1CCFA-1CCFC 1CEBA-1CED0 1CEE0-1CEF0 1E6C0-1E6DE 1E6E0-1E6F5 1E6FE-1E6FF 1F6D8 1F777-1F77A
   1F8D0-1F8D8 1FA54-1FA57 1FA8A 1FA8E 1FAC8 1FACD 1FAEA 1FAEF 1FBFA 2B73A-2B73F 2CEA2-2CEAD
   323B0-33479"

/-- The characters of some categories and with some properties, the latest ones left out. -/
private def settledCodes (categories : List Category) (properties : List Property) : CodeSet :=
  (CodeSet.unionAll (Category.codesOfAll categories :: properties.map (·.codes))).difference
    latestCodes

/-- The characters that the words of patterns consist of. -/
def wordCodes : CodeSet :=
  settledCodes (.decimalNumber :: .connectorPunctuation :: Category.marks)
    [.alphabetic, .joinControl]

/-- The decimal digits that patterns know. -/
def digitCodes : CodeSet := settledCodes [.decimalNumber] []

/-- Letters and numbers. -/
def alphanumericCodes : CodeSet :=
  (Property.codes .alphabetic).union (Category.codesOfAll Category.numbers)

/-- A letter, a digit or an underscore of ASCII. -/
def isAsciiWordChar (c : Char) : Bool := c.isAlphanum || c == '_'

/-- A character that the words of patterns consist of. -/
def isWordChar (c : Char) : Bool :=
  if c.toNat < 128 then isAsciiWordChar c else wordCodes.hasChar c

/-- A letter or a number of any script. -/
def isAlphanumeric (c : Char) : Bool :=
  if c.toNat < 128 then c.isAlphanum else alphanumericCodes.hasChar c

end HostWatch.Text
