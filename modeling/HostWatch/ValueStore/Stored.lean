/-
Keeping stored values from one program run to the next, in a file.

The file is written under another name first, so that a failure while
writing leaves the old file as it was.
-/
import HostWatch.Error
import HostWatch.Document.Reader
import HostWatch.Value.Writer
import HostWatch.ValueStore

namespace HostWatch.ValueStore

/-- Reads the stored form out of a text. -/
def ofText? (text : String) : Option ValueStore := (Document.read? .data text).bind decode

/-- The text of the stored form. -/
def text (s : ValueStore) : String := s.toValue.pretty

/-- The values that a file holds; none, if there is no file. -/
def load (disk : Disk) (path : Path) : Except EngineError ValueStore :=
  if disk.contains path then
    match disk.readText path with
    | .error e => .error (.storage e)
    | .ok text =>
      match ofText? text with
      | some store => .ok store
      | none => .error .malformedData
  else .ok ∅

/-- The path of the file that is written first. -/
def draftPath (path : Path) : Path := Path.withExtension path "tmp"

/-- Writes a draft of the file and puts it in the file's place. -/
def replace (s : ValueStore) (disk : Disk) (path : Path) :
    Except DiskError Unit × Disk :=
  match disk.write (draftPath path) s.text.toUTF8 with
  | .error e => (.error e, disk)
  | .ok drafted =>
    match drafted.rename (draftPath path) path with
    | .error e => (.error e, drafted)
    | .ok saved => (.ok (), saved)

/-- Writes the values to a file, whose directories are made as needed. -/
def save (s : ValueStore) (disk : Disk) (path : Path) : Except DiskError Unit × Disk :=
  match disk.makeDirectories (Path.parent path) with
  | .error e => (.error e, disk)
  | .ok ready => s.replace ready path

end HostWatch.ValueStore
