/-
The files that a run reads and writes: a tree of directories with file
contents, and the operations on it with the ways in which they fail.

A path is followed step by step, so that a file in the middle of a path, a
missing directory and a directory in place of a file are told apart.
-/
import HostWatch.Path
import HostWatch.SortedMap

namespace HostWatch

/-- Why an operation on a file fails. -/
inductive DiskError where
  | notFound
  | alreadyExists
  | notDirectory
  | isDirectory
  | nameTooLong
  /-- A path holds the character with the code 0. -/
  | nulInPath
  /-- The content of a file is no text. -/
  | notText
deriving DecidableEq, Repr

/-- What the system says of a failure. -/
def DiskError.message : DiskError → String
  | .notFound => "No such file or directory (os error 2)"
  | .alreadyExists => "File exists (os error 17)"
  | .notDirectory => "Not a directory (os error 20)"
  | .isDirectory => "Is a directory (os error 21)"
  | .nameTooLong => "File name too long (os error 36)"
  | .nulInPath => "file name contained an unexpected NUL byte"
  | .notText => "stream did not contain valid UTF-8"

/-- What stands at a place. -/
inductive DiskNode where
  | directory
  | file (content : ByteArray)

/--
A place on a disk: the names that lead to it from the working directory, or from the root if the
first of them is empty.
-/
abbrev Place := List String

namespace Place

/-- The name under which a place is kept. -/
def name (place : Place) : String := "/".intercalate place

/-- Whether it is the working directory or the root. -/
def isStart (place : Place) : Bool := place == [] || place == [""]

/-- The place after one more step. -/
def enter (place : Place) (step : String) : Place :=
  if Path.isIdle step then place
  else if step == ".." then if isStart place then place else place.dropLast
  else place ++ [step]

end Place

/-- Directories and files by the names of their places. -/
structure Disk where
  nodes : SortedMap String DiskNode

namespace Disk

/-- A disk without files. -/
def empty : Disk := ⟨∅⟩

instance : EmptyCollection Disk := ⟨empty⟩
instance : Inhabited Disk := ⟨empty⟩

/-- The longest name of a file in bytes. -/
def maxNameSize : Nat := 255

/-- The longest path in bytes. -/
def maxPathSize : Nat := 4095

/-- What stands at a place; the two starting points are directories. -/
def node? (d : Disk) (place : Place) : Option DiskNode :=
  if place.isStart then some .directory else d.nodes.get? place.name

/-- The disk with something at a place. -/
def put (d : Disk) (place : Place) (node : DiskNode) : Disk := ⟨d.nodes.insert place.name node⟩

/-- Whether the system takes a path at all. -/
def checkPath (path : Path) : Except DiskError Unit :=
  if path == "" then .error .notFound
  else if path.toList.contains '\x00' then .error .nulInPath
  else if maxPathSize < path.utf8ByteSize then .error .nameTooLong
  else .ok ()

/-- The place that a path starts from. -/
private def start (path : Path) : Place := if Path.isAbsolute path then [""] else []

/-- One step from a place, which has to be a directory. -/
def follow (d : Disk) (place : Place) (step : String) : Except DiskError Place :=
  match d.node? place with
  | none => .error .notFound
  | some (.file _) => .error .notDirectory
  | some .directory =>
    if maxNameSize < step.utf8ByteSize then .error .nameTooLong else .ok (place.enter step)

/-- The place that a path leads to; nothing needs to stand there. -/
def resolve (d : Disk) (path : Path) : Except DiskError Place := do
  checkPath path
  (Path.components path).foldlM d.follow (start path)

/-- What stands at the end of a path. -/
def find (d : Disk) (path : Path) : Except DiskError DiskNode := do
  match d.node? (← d.resolve path) with
  | some node => .ok node
  | none => .error .notFound

/-- Whether something stands at the end of a path. -/
def contains (d : Disk) (path : Path) : Bool :=
  match d.find path with
  | .ok _ => true
  | .error _ => false

/-- The content of a file. -/
def read (d : Disk) (path : Path) : Except DiskError ByteArray := do
  match ← d.find path with
  | .file content => .ok content
  | .directory => .error .isDirectory

/-- The content of a file that holds text. -/
def readText (d : Disk) (path : Path) : Except DiskError String := do
  match String.fromUTF8? (← d.read path) with
  | some text => .ok text
  | none => .error .notText

/-- Gives a file its content; its directory has to exist. -/
def write (d : Disk) (path : Path) (content : ByteArray) : Except DiskError Disk := do
  let place ← d.resolve path
  match d.node? place with
  | some .directory => .error .isDirectory
  | _ => .ok (d.put place (.file content))

/-- One step from a place; a directory is made where nothing stands. -/
private def makeStep (at_ : Disk × Place) (step : String) : Except DiskError (Disk × Place) := do
  let (d, place) := at_
  let next ← d.follow place step
  match d.node? next with
  | some _ => .ok (d, next)
  | none => .ok (d.put next .directory, next)

/-- Makes a directory and those that lead to it, as far as they are missing. -/
def makeDirectories (d : Disk) (path : Path) : Except DiskError Disk := do
  if path == "" then .ok d
  else
    checkPath path
    let (d, place) ← (Path.components path).foldlM makeStep (d, start path)
    match d.node? place with
    | some (.file _) => .error .alreadyExists
    | _ => .ok d

/-- Removes a file. -/
def remove (d : Disk) (path : Path) : Except DiskError Disk := do
  let place ← d.resolve path
  match d.node? place with
  | some (.file _) => .ok ⟨d.nodes.erase place.name⟩
  | some .directory => .error .isDirectory
  | none => .error .notFound

/-- Moves a file to another path, where it takes the place of a file. -/
def rename (d : Disk) (source target : Path) : Except DiskError Disk := do
  let content ← d.read source
  let old ← d.resolve source
  let new ← d.resolve target
  match d.node? new with
  | some .directory => .error .isDirectory
  | _ =>
    let cleared : Disk := ⟨d.nodes.erase old.name⟩
    .ok (cleared.put new (.file content))

/-- The files of a directory by name. -/
def filesIn (d : Disk) (directory : Path) : List (String × ByteArray) :=
  match d.resolve directory with
  | .error _ => []
  | .ok place =>
    d.nodes.entries.filterMap fun (name, node) =>
      match node with
      | .directory => none
      | .file content =>
        let here := Path.components name
        if here.dropLast == place then here.getLast?.map (·, content) else none

/-- The files of a disk by path. -/
def files (d : Disk) : SortedMap Path ByteArray :=
  d.nodes.filterMap fun _ node =>
    match node with
    | .file content => some content
    | .directory => none

/-- The files that are not on the disk any more. -/
def removedFiles (before after : Disk) : List Path :=
  before.files.keys.filter fun path => !after.files.contains path

/-- The files that are new on a disk or have another content. -/
def changedFiles (before after : Disk) : List (Path × ByteArray) :=
  after.files.entries.filter fun (path, content) => before.files.get? path != some content

/-- Puts a file at the end of a path and makes the directories that lead to it. -/
def place (d : Disk) (path : Path) (content : ByteArray) : Disk :=
  match (d.makeDirectories (Path.parent path)).bind (·.write path content) with
  | .ok d => d
  | .error _ => d

end Disk

end HostWatch
