/-
The sources of a host's data, and how fetching from one can fail. Failures
are kept as data: a source that cannot be read does not stop the others.
-/
import HostWatch.Agent.Output
import HostWatch.Text.Utf8

namespace HostWatch

/-- How a source is read. -/
inductive FetcherType where
  | tcp
  | program
  | specialAgent
  | snmp
  | ipmi
  | file
deriving DecidableEq, Repr, Inhabited

namespace FetcherType

/-- All ways to read a source. -/
def all : List FetcherType := [tcp, program, specialAgent, snmp, ipmi, file]

/-- The word for a way to read a source. -/
def name : FetcherType → String
  | tcp => "tcp"
  | program => "program"
  | specialAgent => "special_agent"
  | snmp => "snmp"
  | ipmi => "ipmi"
  | file => "file"

/-- Reads a way to read a source. -/
def decode : Decoder FetcherType := Decoder.enumeration all name

end FetcherType

/-- One source of a host's data. -/
structure Source where
  host : HostName
  address : Option String := none
  /-- A short tag that summaries show. -/
  ident : String
  fetcher : FetcherType
  sourceType : SourceType
deriving DecidableEq, Repr

namespace Source

/-- The key under which the data of a source is kept. -/
def key (s : Source) : HostKey := ⟨s.host, s.sourceType⟩

/-- A source as a text. -/
def label (s : Source) : String := s!"[{s.ident}] {s.key.label}"

/-- The agent of a host, reached over the network. -/
def agent (host : HostName) : Source :=
  { host, ident := "agent", fetcher := .tcp, sourceType := .host }

/-- The management board of a host. -/
def managementBoard (host : HostName) : Source :=
  { host, ident := "mgmt_ipmi", fetcher := .ipmi, sourceType := .management }

/-- A source as a value. -/
def toValue (s : Source) : Value :=
  .ofPairs [("hostname", .text s.host), ("ipaddress", .ofText? s.address),
    ("ident", .text s.ident), ("fetcher_type", .text s.fetcher.name),
    ("source_type", .text s.sourceType.name)]

/-- Reads a source. -/
def decode : Decoder Source := fun d => do
  let slot ← Slot.ofDocument? .data
    ["hostname", "ipaddress", "ident", "fetcher_type", "source_type"] d
  let host ← (slot "hostname").required Decoder.text
  let address ← (slot "ipaddress").optional Decoder.text
  let ident ← (slot "ident").required Decoder.text
  let fetcher ← (slot "fetcher_type").required FetcherType.decode
  let sourceType ← (slot "source_type").required SourceType.decode
  pure { host, address, ident, fetcher, sourceType }

end Source

/-- Why a source delivers nothing. -/
inductive FetchError where
  | connection (reason : String)
  | timeout (seconds : Nat)
  | emptyOutput
  | other (reason : String)
deriving DecidableEq, Repr

/-- What is said of a failure. -/
def FetchError.message : FetchError → String
  | .connection reason => s!"Communication failed: {reason}"
  | .timeout seconds => s!"Timeout after {seconds}s"
  | .emptyOutput => "Empty output"
  | .other reason => reason

/-- What a source has delivered. -/
abbrev Fetched := Source × Except FetchError ByteArray

/-- What has become of a source's data. -/
abbrev Parsed := Source × Except FetchError HostSections

/-- The sections in what a source has delivered. -/
def parseFetched (f : Fetched) : Parsed :=
  (f.1, f.2.map fun bytes => AgentOutput.parse (Text.ofBytes bytes))

/-- The sections of the sources that did not fail, by host key. -/
def groupParsed (parsed : List Parsed) : SortedMap HostKey HostSections :=
  groupByHost <| parsed.filterMap fun p =>
    match p.2 with
    | .ok sections => some (p.1.key, sections)
    | .error _ => none

end HostWatch
