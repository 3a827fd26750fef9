/-
Reading patterns: literals, `.`, sets, groups, alternatives, repetition,
conditions on positions and flags that change how the rest of a group is
read. The reader takes one element at a time and keeps a stack of the
groups that are still open.

A pattern that is nested too deep or that would take too much memory is
refused like one that is malformed.

This is a language of patterns to run with. It has no classes by age or by
the breaking of texts into clusters, words and sentences, and nothing that
is said about reports and runs depends on it.
-/
import HostWatch.Decimal.Integer
import HostWatch.Pattern.Bracket
import HostWatch.Pattern.Size
import HostWatch.PatternLanguage

namespace HostWatch.Pattern

-- ==================================================== groups under way

/-- An element of a sequence. -/
structure Element where
  pattern : Pattern
  /-- How deep it is nested. -/
  depth : Nat := 0
  /-- Whether it can be repeated, which flags cannot. -/
  repeatable : Bool := true
deriving Repr

/-- How deep something is nested that consists of parts. -/
def depthOf (depths : List Nat) : Nat :=
  match depths with
  | [] => 0
  | [depth] => depth
  | depths => depths.foldl Nat.max 0 + 1

/-- A group that is still open; its lists run backwards. -/
structure Group where
  /-- The flags that hold in it now. -/
  flags : Flags
  /-- Whether its part of the text is remembered. -/
  captures : Bool := false
  /-- The alternatives that are complete, with their depths. -/
  alternatives : List (Pattern × Nat) := []
  /-- The elements of the alternative under way. -/
  elements : List Element := []
deriving Repr

namespace Group

/-- The group with one more element. -/
def add (g : Group) (e : Element) : Group := { g with elements := e :: g.elements }

/-- The group after the end of an alternative. -/
def endAlternative (g : Group) : Group :=
  let pattern := sequenceOf (g.elements.reverse.map (·.pattern))
  { g with
    alternatives := (pattern, depthOf (g.elements.map (·.depth))) :: g.alternatives
    elements := [] }

/-- The pattern of a group that has ended, and the depth of what is in it. -/
def close (g : Group) : Pattern × Nat :=
  let all := g.endAlternative.alternatives.reverse
  let pattern := eitherOf (all.map (·.1))
  (if g.captures then .captured pattern else pattern, depthOf (all.map (·.2)))

/-- The group with its last element repeated, if there is one. -/
def repeatLast? (g : Group) (min : Nat) (max : Option Nat) : Option Group :=
  match g.elements with
  | e :: rest =>
    if e.repeatable then
      some { g with elements := ⟨e.pattern.times min max, e.depth + 1, true⟩ :: rest }
    else none
  | [] => none

end Group

/-- The state of the reader: the innermost group, those around it, and the names of groups. -/
structure Reading where
  group : Group
  outer : List Group := []
  names : List (List Char) := []
deriving Repr

-- ==================================================== repetition

/-- The digits at the start of a text, without what the flags skip behind each; what follows. -/
def takeDigits (f : Flags) : Nat → List Char → List Char × List Char
  | 0, s => ([], s)
  | n + 1, s =>
    match s with
    | [] => ([], s)
    | c :: rest =>
      if c.isDigit then
        let (digits, after) := takeDigits f n (f.skip rest)
        (c :: digits, after)
      else ([], s)

/-- A number with blanks around it, and what follows. -/
def readCount? (f : Flags) (s : List Char) : Option (Nat × List Char) :=
  let s := Text.trimStart s
  let (digits, after) := takeDigits f s.length s
  (Decimal.readUnsigned? 4294967295 digits).map (·, f.skip (Text.trimStart after))

/-- The limits of a repetition in braces, from behind the opening one. -/
def readLimits? (f : Flags) (s : List Char) : Option (Nat × Option Nat × List Char) := do
  let (min, rest) ← readCount? f (f.skip s)
  match rest with
  | '\x7d' :: after => some (min, some min, after)
  | ',' :: more =>
    match f.skip more with
    | '\x7d' :: after => some (min, none, after)
    | more => do
      let (max, rest) ← readCount? f more
      match rest with
      | '\x7d' :: after => if min ≤ max then some (min, some max, after) else none
      | _ => none
  | _ => none

/-- What follows a repetition and its sign that it prefers the shortest text. -/
def dropLazy : List Char → List Char
  | '?' :: rest => rest
  | s => s

-- ==================================================== openings

/-- Whether a name of a group is well formed. -/
private def isGroupName : List Char → Bool
  | [] => false
  | c :: rest =>
    let isLetter (c : Char) : Bool :=
      if c.toNat < 0x80 then c.isAlpha else (Text.Property.codes .alphabetic).hasChar c
    (c == '_' || isLetter c) &&
      rest.all fun c => ['_', '.', '[', ']'].contains c || Text.isAlphanumeric c

/-- Opens a group. -/
def Reading.enter (r : Reading) (flags : Flags) (captures : Bool) : Reading :=
  { r with group := { flags, captures }, outer := r.group :: r.outer }

/-- Opens a group with a name, from behind the bracket in front of the name. -/
def enterNamed? (r : Reading) (s : List Char) : Option (Reading × List Char) :=
  let name := s.takeWhile (· != '>')
  match s.drop name.length with
  | '>' :: after =>
    if isGroupName name && !r.names.contains name then
      some ({ r.enter r.group.flags true with names := name :: r.names }, after)
    else none
  | _ => none

/-- Opens a group with flags, or sets flags for the rest of a group. -/
def enterFlags? (r : Reading) (s : List Char) : Option (Reading × List Char) := do
  let letters := s.takeWhile fun c => c != ':' && c != ')'
  let flags ← r.group.flags.read? letters
  match s.drop letters.length with
  | ':' :: after => some (r.enter flags false, after)
  | ')' :: after =>
    if letters.isEmpty then none
    else
      let group := { r.group.add ⟨.empty, 0, false⟩ with flags }
      some ({ r with group }, after)
  | _ => none

/-- Reads what follows an opening parenthesis. -/
def enter? (r : Reading) (s : List Char) : Option (Reading × List Char) :=
  match r.group.flags.skip s with
  | '?' :: '<' :: '=' :: _ | '?' :: '<' :: '!' :: _ => none
  | '?' :: 'P' :: '<' :: rest | '?' :: '<' :: rest => enterNamed? r rest
  | '?' :: rest => enterFlags? r rest
  | s => some (r.enter r.group.flags true, s)

-- ==================================================== elements

/-- The pattern of an escape. -/
private def Escape.pattern (f : Flags) : Escape → Pattern
  | .literal c => f.literal c
  | .set codes => .one codes
  | .assertion a => .assertion a

/-- Reads one element of a pattern, which begins with the character `c`. -/
def step? (r : Reading) (c : Char) (rest : List Char) : Option (Reading × List Char) :=
  let f := r.group.flags
  let add (p : Pattern) (rest : List Char) : Option (Reading × List Char) :=
    some ({ r with group := r.group.add { pattern := p } }, rest)
  let again (min : Nat) (max : Option Nat) (rest : List Char) : Option (Reading × List Char) :=
    (r.group.repeatLast? min max).map fun group => ({ r with group }, dropLazy rest)
  match c with
  | '\\' => (Escape.read? f rest).bind fun (escape, after) => add (escape.pattern f) after
  | '[' =>
    (readBracket? f rest).map fun (codes, depth, after) =>
      ({ r with group := r.group.add { pattern := .one codes, depth } }, after)
  | '.' => f.dot?.bind fun p => add p rest
  | '^' => add (.assertion f.caret) rest
  | '$' => add (.assertion f.dollar) rest
  | '|' => some ({ r with group := r.group.endAlternative }, rest)
  | '*' => again 0 none rest
  | '+' => again 1 none rest
  | '?' => again 0 (some 1) rest
  | '\x7b' => (readLimits? f rest).bind fun (min, max, after) => again min max (f.skip after)
  | '(' => enter? r rest
  | ')' =>
    match r.outer with
    | [] => none
    | parent :: outer =>
      let (pattern, depth) := r.group.close
      some ({ r with group := parent.add { pattern, depth := depth + 1 }, outer }, rest)
  | c => add (f.literal c) rest

/-- Reads elements until the pattern ends; at most as many as there are characters. -/
def readAll : Nat → Reading → List Char → Except PatternFault (Pattern × Nat)
  | 0, _, _ => .error .malformed
  | n + 1, r, s =>
    match r.group.flags.skip s with
    | [] => if r.outer.isEmpty then .ok r.group.close else .error .unclosed
    | c :: rest =>
      match step? r c rest with
      | some (r, after) => readAll n r after
      | none => .error (if c = ')' then .unopened else .malformed)

/-- How deep a pattern may be nested. -/
def depthLimit : Nat := 250

/-- The pattern that a text denotes. -/
def read (s : String) : Except PatternFault Pattern := do
  let (pattern, depth) ← readAll (s.length + 1) { group := { flags := {} } } s.toList
  if depth ≤ depthLimit && pattern.isSmall then .ok pattern else .error .tooLarge

/-- The language of the patterns that can be read here. -/
instance language : PatternLanguage where
  compile text := (read text).map fun pattern name => pattern.matchesIn name.toList

end HostWatch.Pattern
