/-
Configuration files. A file that holds nothing but white space is an error
of its own.
-/
import HostWatch.Config
import HostWatch.Error
import HostWatch.Document.Reader

namespace HostWatch.ConfigFile

/-- What a text means, if it is well formed. -/
def ofText? (decoder : Decoder α) (text : String) : Option α :=
  (Document.read? .file text).bind decoder

/-- What a file holds. -/
def load (disk : Disk) (path : Path) (decoder : Decoder α) : Except EngineError α :=
  match disk.readText path with
  | .error e => .error (.storage e)
  | .ok text =>
    if Text.allBlank text.toList then .error (.config (.emptyFile path))
    else
      match ofText? decoder text with
      | some a => .ok a
      | none => .error .malformedConfig

/-- The services that a text lists. -/
def services? (text : String) : Option (List Service) :=
  ofText? (Decoder.list (Service.decode .file)) text

/-- The configuration of the program in a file; the defaults if it cannot be read. -/
def loadOrDefault (disk : Disk) (path : Path) : Config :=
  match load disk path (Config.decode .file) with
  | .ok config => config
  | .error _ => {}

end HostWatch.ConfigFile
