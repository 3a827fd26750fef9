/-
What words stand for. Variables, outputs of scripts and numbers take the
place of what is written; what comes of them without quotes is cut at
blanks, so that a word can become several fields or none.
-/
import HostWatch.Programs.Shell.Arithmetic
import HostWatch.Programs.Shell.State
import HostWatch.Programs.Shell.Token
import HostWatch.Text.Utf8

namespace HostWatch.Shell

-- ==================================================== fields

/-- A part of what a word stands for. -/
inductive Chunk where
  /-- It stays as it is, and the word becomes a field even if it is empty. -/
  | whole (text : List Char)
  /-- It is cut at blanks. -/
  | loose (text : List Char)
  /-- A field ends here. -/
  | cut
deriving DecidableEq, Repr

/-- The fields so far, the last one first, and the one under way. -/
structure Fields where
  complete : List (List Char) := []
  current : Option (List Char) := none

namespace Fields

/-- Ends the field under way. -/
private def endField (f : Fields) : Fields :=
  match f.current with
  | some field => ⟨field :: f.complete, none⟩
  | none => f

/-- Adds characters to the field under way. -/
private def add (f : Fields) (text : List Char) : Fields :=
  { f with current := some (f.current.getD [] ++ text) }

/-- Adds a chunk. -/
private def addChunk (f : Fields) : Chunk → Fields
  | .whole text => f.add text
  | .cut => f.endField
  | .loose text =>
    text.foldl (fun f c =>
      if c == ' ' || c == '\t' || c == '\n' then f.endField else f.add [c]) f

end Fields

/-- The fields that some chunks make. -/
def fieldsOf (chunks : List Chunk) : List String :=
  (chunks.foldl Fields.addChunk {}).endField.complete.reverse.map String.ofList

/-- The text that some chunks make if nothing is cut. -/
def textOf (chunks : List Chunk) : String :=
  String.ofList (chunks.flatMap fun
    | .whole text | .loose text => text
    | .cut => [' '])

-- ==================================================== pieces

/-- A text in place of a piece. -/
private def chunk (isQuoted : Bool) (text : String) : Chunk :=
  if isQuoted then .whole text.toList else .loose text.toList

/-- The arguments of a script, one field each. -/
private def argumentChunks (isQuoted : Bool) (arguments : List String) : List Chunk :=
  (arguments.map (chunk isQuoted)).intersperse .cut

/-- What a variable stands for. -/
private def valueChunks (s : State) (name : String) (isQuoted : Bool) : List Chunk :=
  if name == "@" || (name == "*" && !isQuoted) then argumentChunks isQuoted s.arguments
  else [chunk isQuoted ((s.value? name).getD "")]

/-- The text of some output without the line ends at its end. -/
private def outputText (printed : List UInt8) : String :=
  String.ofList (Text.dropEndWhile (· == '\n') (Text.ofBytes ⟨printed.toArray⟩).toList)

section

variable (outputOf : String → State → State × List UInt8)

/--
What a piece stands for; `expand` does the same for words. What is written without quotes is cut at
blanks only if it stands for a variable.
-/
private def expandPiece (expand : Bool → State → Word → State × List Chunk)
    (isReplacement : Bool) (s : State) : Piece → State × List Chunk
  | .text chars isQuoted =>
    (s, [if isReplacement && !isQuoted then .loose chars else .whole chars])
  | .malformed => (s.abort "Bad substitution", [])
  | .size name isQuoted => (s, [chunk isQuoted (toString ((s.value? name).getD "").length)])
  | .output script isQuoted =>
    let (s, printed) := outputOf script s
    (s, [chunk isQuoted (outputText printed)])
  | .number expression isQuoted =>
    match readText true expression with
    | .error complaint => (s.abort s!"Syntax error: {complaint}", [])
    | .ok word =>
      let (s, chunks) := expand false s word
      match Arithmetic.value s.value? (textOf chunks) with
      | .ok n => (s, [chunk isQuoted (toString n)])
      | .error complaint => (s.abort complaint, [])
  | .parameter name none isQuoted =>
    if s.demandsValues && (s.value? name).isNone && name != "@" && name != "*" then
      (s.abort s!"{name}: parameter not set", [])
    else (s, valueChunks s name isQuoted)
  | .parameter name (some adjustment) isQuoted =>
    let isSet := match s.value? name with
      | some value => !(adjustment.countsEmpty && value == "")
      | none => false
    let instead : State × List Chunk :=
      match readText isQuoted adjustment.text with
      | .ok word => expand true s word
      | .error complaint => (s.abort s!"Syntax error: {complaint}", [])
    match adjustment.purpose, isSet with
    | .substitute, false => (s, if isQuoted then [.whole []] else [])
    | .substitute, true | .fallback, false => instead
    | _, true => (s, valueChunks s name isQuoted)
    | .assignment, false =>
      let (s, chunks) := instead
      let text := textOf chunks
      if isName name.toList then (s.set name text, [chunk isQuoted text])
      else (s.abort s!"{name}: bad variable name", [])
    | .complaint, false =>
      let (s, chunks) := instead
      let text := if adjustment.text.isEmpty then "parameter not set" else textOf chunks
      (s.abort s!"{name}: {text}", [])

/-- What a word stands for; `fuel` bounds how deep words are nested. -/
private def expandWord (fuel : Nat) (isReplacement : Bool) (s : State) (word : Word) :
    State × List Chunk :=
  match fuel with
  | 0 => (s, [])
  | fuel + 1 =>
    word.foldl (fun (s, chunks) piece =>
      if s.stop.isSome then (s, chunks)
      else
        let (s, more) := expandPiece outputOf (expandWord fuel) isReplacement s piece
        (s, chunks ++ more)) (s, [])

/-- How deep words can be nested. -/
def wordDepth : Nat := 100

/-- The fields of some words. -/
def expandFields (s : State) (words : List Word) : State × List String :=
  words.foldl (fun (s, fields) word =>
    if s.stop.isSome then (s, fields)
    else
      let (s, chunks) := expandWord outputOf wordDepth false s word
      (s, fields ++ fieldsOf chunks)) (s, [])

/-- The text of a word, which is not cut. -/
def expandText (s : State) (word : Word) : State × String :=
  let (s, chunks) := expandWord outputOf wordDepth false s word
  (s, textOf chunks)

end

end HostWatch.Shell
