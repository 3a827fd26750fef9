/-
Sets of characters that patterns refer to by name: categories and groups
of categories, properties, and scripts.

Names may be written in many ways: case, blanks, hyphens and underscores
do not matter, and neither does the word `is` in front. The sets are those
of the last but one edition of the standard.
-/
import HostWatch.Text.Letter
import HostWatch.Text.Script
import HostWatch.Text.Split
import HostWatch.Text.WordChar

namespace HostWatch.Pattern

open Text (CodeSet Category Property Script)

-- ==================================================== names

/-- A name without case, and without the characters that do not matter. -/
private def bare (name : List Char) : String :=
  String.ofList (Text.lower (name.filter fun c =>
    c.toNat < 0x80 && c != ' ' && c != '_' && c != '-'))

/--
A name as it is looked up. The word `is` in front of it does not count, unless it is the name of
a comment.
-/
private def lookupName (name : List Char) : String :=
  match name with
  | i :: s :: rest =>
    if Text.lower [i, s] = ['i', 's'] then
      let name := bare rest
      if name = "c" then "isc" else name
    else bare name
  | _ => bare name

/-- Whether a name is one of some others. -/
private def isAmong (name : String) (names : List String) : Bool :=
  names.any fun n => bare n.toList = name

-- ==================================================== sets

/-- Groups of categories, by their names. -/
private def categoryGroups : List (List String × List Category) :=
  [(["L", "Letter"], Category.letters),
    (["LC", "Cased_Letter"], [.uppercaseLetter, .lowercaseLetter, .titlecaseLetter]),
    (["M", "Mark", "Combining_Mark"], Category.marks),
    (["N", "Number"], Category.numbers),
    (["P", "Punctuation", "punct"], Category.punctuation),
    (["S", "Symbol"], Category.symbols),
    (["Z", "Separator"], Category.separators),
    (["C", "Other"], Category.others)]

/-- The names of a category. -/
private def categoryNames (c : Category) : List String :=
  [c.abbreviation, c.name] ++
    match c with
    | .control => ["cntrl"]
    | .decimalNumber => ["digit"]
    | _ => []

/-- The categories that have names; surrogates are no characters. -/
private def namedCategories : List (List String × List Category) :=
  (Category.all.filter (· != .surrogate)).map fun c => (categoryNames c, [c])

/-- The code points of some categories; those of the latest edition stand for nothing. -/
private def codesIn (categories : List Category) : CodeSet :=
  let codes := Category.codesOfAll categories
  if categories.contains .unassigned then codes.union Text.latestCodes
  else codes.difference Text.latestCodes

/-- The set of a category or of a group of them. -/
private def categorySet? (name : String) : Option CodeSet :=
  if name = "any" then some (.range 0 CodeSet.last)
  else if name = "ascii" then some (.range 0 0x7F)
  else if name = "assigned" then some (codesIn [.unassigned]).complement
  else
    ((categoryGroups ++ namedCategories).find? fun (names, _) => isAmong name names).map
      fun (_, categories) => codesIn categories

/-- The names of a script. -/
private def scriptNames (s : Script) : List String :=
  [s.abbreviation, s.name] ++
    (if s.name = "Coptic" then ["Qaac"] else if s.name = "Inherited" then ["Qaai"] else [])

/-- The script of a name. -/
private def script? (name : String) : Option Script :=
  Script.all.find? fun s => isAmong name (scriptNames s)

/-- The set of a script. -/
private def scriptSet? (name : String) : Option CodeSet :=
  (script? name).map fun s => s.codes.difference Text.latestCodes

/-- The names of a property. -/
private def propertyNames (p : Property) : List String :=
  [p.abbreviation, p.name] ++ (if p = .whiteSpace then ["space"] else [])

/-- The set of a property. -/
private def propertySet? (name : String) : Option CodeSet :=
  (Property.all.find? fun p => isAmong name (propertyNames p)).map fun p =>
    p.codes.difference Text.latestCodes

/-- The set that a name stands for. Some names could be short for two things. -/
def namedSet? (name : List Char) : Option CodeSet :=
  let name := lookupName name
  let property :=
    if name = "cf" || name = "sc" || name = "lc" then none else propertySet? name
  property <|> categorySet? name <|> scriptSet? name

/-- The set of the characters for which a property has some value. -/
def valueSet? (property value : List Char) : Option CodeSet :=
  let property := lookupName property
  let value := lookupName value
  if property = "gc" || property = "generalcategory" then categorySet? value
  else if property = "sc" || property = "script" then scriptSet? value
  else if property = "scx" || property = "scriptextensions" then
    (script? value).map fun s => s.usedCodes.difference Text.latestCodes
  else none

/-- The set that a description stands for: a name, or a property and its value. -/
def describedSet? (description : List Char) : Option CodeSet :=
  let cutAt (mark : List Char) : Option (List Char × List Char) :=
    let property := Text.before mark description
    if property.length = description.length then none
    else some (property, description.drop (property.length + mark.length))
  match cutAt ['!', '='] <|> cutAt [':'] <|> cutAt ['='] with
  | some (property, value) => valueSet? property value
  | none => namedSet? description

end HostWatch.Pattern
