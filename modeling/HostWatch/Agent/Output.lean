/-
The text that an agent delivers. A line `<<<name>>>` begins a section;
options behind the name, set off by colons, give the age of cached data
and the character that separates cells. A line `<<<<host>>>>` begins a
block about another host, which is skipped until `<<<<>>>>` ends it.
-/
import HostWatch.Agent.Sections
import HostWatch.Decimal.Integer
import HostWatch.Text.Blank

namespace HostWatch.AgentOutput

/-- The head of a section. -/
structure Header where
  name : SectionName
  cacheInfo : Option CacheInfo := none
  separator : Option Char := none
deriving DecidableEq, Repr

/-- The age in an option `cached(time,age)`, from the text between the brackets. -/
def readCached? (arguments : List Char) : Option CacheInfo :=
  match Text.splitOn ',' arguments with
  | time :: age :: _ => do
    let retrievalTime ← Decimal.readSigned64? (Text.trim time)
    let maxAge ← Decimal.readSigned64? (Text.trim age)
    pure { retrievalTime, maxAge }
  | _ => none

/-- The head with one more option; what is no option changes nothing. -/
def Header.withOption (h : Header) (option : List Char) : Header :=
  match Text.unframe? "cached(".toList [')'] option with
  | some arguments =>
    match readCached? arguments with
    | some info => { h with cacheInfo := some info }
    | none => h
  | none =>
    match Text.unframe? "sep(".toList [')'] option with
    | some code =>
      { h with separator := (Decimal.readByte? (Text.trim code)).map Char.ofNat }
    | none => h

/-- The head that stands between the angle brackets; there is none without a name. -/
def Header.read? (inner : List Char) : Option Header :=
  match Text.splitOn ':' inner with
  | [] | [] :: _ => none
  | name :: options => some (options.foldl Header.withOption { name := String.ofList name })

/-- The cells of a line. -/
def cells (separator : Option Char) (line : List Char) : List String :=
  let pieces := match separator with
    | some c => Text.splitOn c line
    | none => Text.words line
  pieces.map String.ofList

/-- What a line is, once the carriage returns at its end are gone. -/
inductive LineKind where
  /-- It begins a block about another host, or ends one if the name is empty. -/
  | piggyback (host : List Char)
  /-- It begins a section. -/
  | header (inner : List Char)
  /-- It has no characters but blanks. -/
  | blank
  /-- It belongs to a section. -/
  | data (line : List Char)
deriving DecidableEq, Repr

/-- What a line is. -/
def lineKind (line : List Char) : LineKind :=
  let line := Text.dropEndWhile (· == '\r') line
  match Text.unframe? "<<<<".toList ">>>>".toList line with
  | some host => .piggyback host
  | none =>
    match Text.unframe? "<<<".toList ">>>".toList line with
    | some inner => .header inner
    | none => if Text.allBlank line then .blank else .data line

/-- How far the lines of an agent have been read. -/
structure Reading where
  /-- The sections that are complete. -/
  done : HostSections := ∅
  /-- The section under way, with its rows so far. -/
  current : Option (Header × Table) := none
  /-- Whether the lines are about another host. -/
  elsewhere : Bool := false

namespace Reading

/-- The sections read so far, the one under way included. -/
def sections (r : Reading) : HostSections :=
  match r.current with
  | some (header, rows) => r.done.addSection header.name rows header.cacheInfo
  | none => r.done

/-- Takes one line. -/
def line (r : Reading) (text : List Char) : Reading :=
  match lineKind text with
  | .piggyback host => { done := r.sections, current := none, elsewhere := !host.isEmpty }
  | kind =>
    if r.elsewhere then r
    else
      match kind with
      | .header inner =>
        { done := r.sections, current := (Header.read? inner).map (·, []), elsewhere := false }
      | .data text =>
        { r with
          current := r.current.map fun (header, rows) =>
            (header, rows ++ [cells header.separator text]) }
      | _ => r

end Reading

/-- The sections in an agent's text. -/
def parse (text : String) : HostSections :=
  ((Text.lines text.toList).foldl Reading.line {}).sections

-- ==================================================== writing agent texts

/-- A section as it is to be delivered. -/
structure Section where
  name : SectionName
  lines : List String
  cacheInfo : Option CacheInfo := none
deriving DecidableEq, Repr

/-- The line that begins a section. -/
def Section.header (s : Section) : String :=
  match s.cacheInfo with
  | some info => s!"<<<{s.name}:cached({info.retrievalTime},{info.maxAge})>>>"
  | none => s!"<<<{s.name}>>>"

/-- An agent's text with the sections of a list. -/
def write (sections : List Section) : String :=
  String.join (sections.map fun s =>
    String.join ((s.header :: s.lines).map fun line => line ++ "\n"))

/-- The sections of a list as the agent's text means them, lines cut at blanks. -/
def collect (sections : List Section) : HostSections :=
  sections.foldl (fun acc s =>
    acc.addSection s.name (s.lines.map fun line => cells none line.toList) s.cacheInfo) ∅

end HostWatch.AgentOutput
