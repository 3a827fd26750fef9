/-
The program as a whole: it reads its configuration, checks every host and
shows the results. The exit code is the worst state of a host.
-/
import HostWatch.Config.File
import HostWatch.Environment
import HostWatch.Monitor
import HostWatch.Programs.Shell

namespace HostWatch.CommandLine

/-- The file whose assignments complete the environment. -/
def environmentPath : Path := ".env"

/-- The variable that names the configuration file. -/
def configVariable : String := "SYMBION_CHECKER_CONFIG"

/-- The configuration file if nothing else is said. -/
def defaultConfigPath : Path := "checker.yaml"

/--
The environment with the assignments of the file, if there is one. It counts up to the first line
that is no text. Nothing, if one of the assignments cannot be made.
-/
def fullEnvironment? (environment : Environment) (disk : Disk) : Option Environment :=
  match disk.read environmentPath with
  | .ok content => environment.complete? (Text.leadingText content)
  | .error _ => some environment

/-- The path of the configuration file. -/
def configPath (environment : Environment) : Path :=
  (environment.get? configVariable).getD defaultConfigPath

/-- The configuration. -/
def config (environment : Environment) (disk : Disk) : Config :=
  ConfigFile.loadOrDefault disk (configPath environment)

/-- The paths that a source may be read from. -/
def sourcePaths (source : SourceConfig) : List Path :=
  match source.kind with
  | .file path => [path]
  | .program command => (Command.words? command).getD []

/-- The paths that a run of the program may read or remove. -/
def inputPaths (config : Config) : List Path :=
  let sources := config.hosts.values.flatMap fun host => host.sources.flatMap sourcePaths
  let trees := match config.statusDirectory with
    | some directory => config.hostNames.map (TreeStore.fileOf directory)
    | none => []
  config.settings.valueStorePath.toList ++ sources ++ trees

/-- What the program leaves behind. -/
structure Outcome where
  /-- The texts that it prints, each on lines of its own. -/
  printed : List String
  exitCode : Nat
  disk : Disk
  /-- What it says if it cannot start. -/
  failure : Option String := none

/-- How far the hosts have been checked. -/
structure Progress where
  monitor : Monitor
  /-- The lines that show the results of services. -/
  serviceLines : List String := []
  /-- The results of the hosts. -/
  results : List (HostName × HostResult) := []

/-- Checks a host. A host without a result is left out. -/
def Progress.check (p : Progress) (name : HostName) : Progress :=
  let (run, monitor) := p.monitor.check name false
  { monitor
    serviceLines := p.serviceLines ++ run.lines
    results :=
      match run.result with
      | .ok result => p.results ++ [(name, result)]
      | .error _ => p.results }

/-- The text that shows the result of a host. -/
def hostText (name : HostName) (result : HostResult) : String := s!"{name}: {result.text}"

/-- Checks all hosts of a configuration. -/
def runConfig (config : Config) (around : Surroundings) (disk : Disk) : Outcome :=
  match Monitor.start config around disk with
  | .error e => { printed := [], exitCode := 1, disk, failure := some e.message }
  | .ok monitor =>
    let done := config.hostNames.foldl Progress.check { monitor }
    { printed := done.serviceLines ++ done.results.map fun (name, result) => hostText name result
      exitCode := Monitor.exitCode (done.results.map (·.2))
      disk := done.monitor.finish.disk }

/-- What is said of an assignment that cannot be made. -/
def impossibleAssignment : String := s!"{environmentPath} sets a variable to a text with a NUL"

/-- The whole program. It breaks off where the environment cannot be completed. -/
def run (environment : Environment) (around : Surroundings) (disk : Disk) : Outcome :=
  match fullEnvironment? environment disk with
  | some environment => runConfig (config environment disk) around disk
  | none => { printed := [], exitCode := 101, disk, failure := some impossibleAssignment }

end HostWatch.CommandLine
