/-
Why a run, or a part of it, comes to nothing.
-/
import HostWatch.Disk
import HostWatch.Inventory.Tree
import HostWatch.Period

namespace HostWatch

/-- What is wrong with a configuration. -/
inductive ConfigError where
  | period (e : PeriodError)
  | emptyFile (path : String)
deriving DecidableEq, Repr

/-- What is said of an error in a configuration. -/
def ConfigError.message : ConfigError → String
  | .period e => e.message
  | .emptyFile path => s!"{path} is empty"

/-- Why a run, or a part of it, comes to nothing. -/
inductive EngineError where
  /-- It was interrupted. -/
  | timeout
  /-- A plugin failed while failures are not contained. -/
  | pluginCrash (plugin : String) (message : String)
  /-- Sections supersede one another in a circle. -/
  | supersessionCycle (names : List SectionName)
  /-- Inventory items contradict one another. -/
  | mismatch (conflict : TreeConflict)
  /-- The configuration has an error. -/
  | config (e : ConfigError)
  /-- A file cannot be read or written. -/
  | storage (e : DiskError)
  /-- A stored file does not hold what it should. -/
  | malformedData
  /-- A configuration file does not hold what it should. -/
  | malformedConfig
deriving DecidableEq, Repr

/-- What is said of an error. -/
def EngineError.message : EngineError → String
  | .timeout => "Check timed out"
  | .pluginCrash plugin message => s!"Plugin {plugin} crashed: {message}"
  | .supersessionCycle names => "Section supersession cycle: " ++ " -> ".intercalate names
  | .mismatch conflict => s!"Configuration mismatch: {conflict.message}"
  | .config e => s!"Configuration error: {e.message}"
  | .storage e => s!"IO error: {e.message}"
  | .malformedData => "JSON error"
  | .malformedConfig => "YAML error"

/-- What ends a run before its time: an error, or a plugin that broke off and was let through. -/
inductive Abort where
  | error (e : EngineError)
  | crash (message : String)
deriving DecidableEq, Repr

end HostWatch
