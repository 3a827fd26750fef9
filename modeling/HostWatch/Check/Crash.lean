/-
Crash reports: everything that is needed to look into a check function
that failed or broke off, and the result that its service gets.
-/
import HostWatch.Check.Call
import HostWatch.Disk
import HostWatch.ServiceResult
import HostWatch.Value.Writer

namespace HostWatch

/-- How data is obtained over the network management protocol. -/
inductive SnmpBackend where
  | inline
  | classic
  | storedWalk
deriving DecidableEq, Repr, Inhabited

namespace SnmpBackend

/-- All backends. -/
def all : List SnmpBackend := [inline, classic, storedWalk]

/-- The word for a backend. -/
def name : SnmpBackend → String
  | inline => "inline"
  | classic => "classic"
  | storedWalk => "stored_walk"

/-- Reads a backend. -/
def decode : Decoder SnmpBackend := Decoder.enumeration all name

end SnmpBackend

/-- A report on a check function that failed or broke off. -/
structure CrashReport where
  /-- What tells reports apart. -/
  id : String
  /-- When it was written. -/
  time : String
  host : HostName
  description : String
  plugin : PluginName
  /-- The arguments of the call. -/
  arguments : Value
  isCluster : Bool
  isEnforced : Bool
  snmpBackend : SnmpBackend
  /-- What the agent has delivered last, if anything. -/
  agentOutput : Option String
  message : String

namespace CrashReport

/--
An identity made of a number: 30 hexadecimal digits in groups of 8, 4, 3, 3 and 12, two of which
have a digit in front that tells that the number is random.
-/
def idOfNumber (n : Nat) : String :=
  let digits := List.replicate 30 '0' ++ Nat.toDigits 16 n
  let all := digits.drop (digits.length - 30)
  let group (start size : Nat) : String := String.ofList ((all.drop start).take size)
  s!"{group 0 8}-{group 8 4}-4{group 12 3}-a{group 15 3}-{group 18 12}"

/-- The result of the service that the report is about. -/
def result (r : CrashReport) : ServiceResult where
  state := .unknown
  output := s!"Check failed - please submit a crash report! ({r.message}) (Crash-ID: {r.id})"

/-- A report as a value. -/
def toValue (r : CrashReport) : Value :=
  .ofPairs [("crash_id", .text r.id), ("time", .text r.time), ("host", .text r.host),
    ("description", .text r.description), ("plugin_name", .text r.plugin),
    ("plugin_kwargs", r.arguments), ("is_cluster", .bool r.isCluster),
    ("is_enforced", .bool r.isEnforced), ("snmp_backend", .text r.snmpBackend.name),
    ("rtc_package", .ofText? r.agentOutput), ("message", .text r.message)]

/-- Writes a report into a directory; without success the disk stays as far as it has come. -/
def file (r : CrashReport) (directory : Path) (disk : Disk) : Disk :=
  match disk.makeDirectories directory with
  | .error _ => disk
  | .ok ready =>
    match ready.write (Path.join directory (r.id ++ ".json")) r.toValue.pretty.toUTF8 with
    | .error _ => ready
    | .ok written => written

end CrashReport

end HostWatch
