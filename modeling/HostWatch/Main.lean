/-
The command line. The files that the program may read are loaded first;
then everything is computed, and at last the files that have changed are
written.
-/
import HostWatch.CommandLine
import Std.Time.Zoned

namespace HostWatch.Main

/-- Puts what stands at the end of a path on a disk. -/
def load (disk : Disk) (path : Path) : IO Disk := do
  try
    let content ← IO.FS.readBinFile path
    pure (disk.place path content)
  catch e =>
    match e with
    | .inappropriateType .. =>
      pure ((disk.makeDirectories path).toOption.getD disk)
    | _ => pure disk

/-- Writes a file and makes the directories that lead to it. -/
def store (path : Path) (content : ByteArray) : IO Unit := do
  let directory := Path.parent path
  if directory != "" then IO.FS.createDirAll directory
  IO.FS.writeBinFile path content

/-- Makes the files the same as those of a disk. -/
def update (before after : Disk) : IO Unit := do
  for path in before.removedFiles after do
    IO.FS.removeFile path
  for (path, content) in before.changedFiles after do
    store path content

/-- The moment on the clock of the place, or on that without an offset. -/
def localClock : IO Instant := do
  let zero ← Std.Time.Timestamp.now
  try
    let here ← Std.Time.PlainDateTime.now
    pure ⟨here.toWallTime.val.second.val⟩
  catch _ => pure ⟨zero.val.second.val⟩

/-- What the program is given from outside. -/
def surroundings : IO Surroundings := do
  let now ← Std.Time.Timestamp.now
  let high ← IO.rand 0 0xfffffffffffffff
  let low ← IO.rand 0 0xfffffffffffffff
  pure {
    now := ← localClock
    time := Instant.text ⟨now.val.second.val⟩
    crashId := fun n => CrashReport.idOfNumber (high * 0x1000000000000000 + low + n)
    programs := Shell.programs }

/-- The environment as far as the program looks at it. -/
def environment : IO Environment := do
  let path ← IO.getEnv CommandLine.configVariable
  pure (.ofList (path.toList.map fun path => (CommandLine.configVariable, path)))

/-- The disk with the files that the program may read. -/
def inputs (environment : Environment) : IO Disk := do
  let first ← load ∅ CommandLine.environmentPath
  match CommandLine.fullEnvironment? environment first with
  | none => pure first
  | some environment =>
    let second ← load first (CommandLine.configPath environment)
    (CommandLine.inputPaths (CommandLine.config environment second)).foldlM load second

end HostWatch.Main

open HostWatch in
/-- Checks all configured hosts. -/
def main : IO UInt32 := do
  let environment ← Main.environment
  let disk ← Main.inputs environment
  let outcome := CommandLine.run environment (← Main.surroundings) disk
  for text in outcome.printed do
    IO.println text
  if let some reason := outcome.failure then
    IO.eprintln s!"Error: {reason}"
  Main.update disk outcome.disk
  pure outcome.exitCode.toUInt32
