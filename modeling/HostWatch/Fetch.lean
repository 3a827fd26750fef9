/-
Fetching the data of configured sources. A source is found by the host
that its data is of and by its tag; how a kind of source is read is up to
the caller.
-/
import HostWatch.Config
import HostWatch.Source

namespace HostWatch

/-- Reads a kind of source. -/
abbrev SourceReader := SourceKind → Except FetchError ByteArray

namespace SourceConfig

/-- The host that the data of a source is of, where `host` is the one that it is configured for. -/
def hostFor (c : SourceConfig) (host : HostName) : HostName := c.host.getD host

/-- The source that is configured. -/
def sourceFor (c : SourceConfig) (host : HostName) : Source where
  host := c.hostFor host
  ident := c.ident
  fetcher := c.kind.fetcher
  sourceType := if c.management then .management else .host

end SourceConfig

/-- The configured sources of a host. -/
structure Fetcher where
  host : HostName
  configs : List SourceConfig

namespace Fetcher

/-- The sources. -/
def sources (f : Fetcher) : List Source := f.configs.map (·.sourceFor f.host)

/-- The kind of a source: that of the last one configured with its host and its tag. -/
def kindOf? (f : Fetcher) (source : Source) : Option SourceKind :=
  (f.configs.reverse.find? fun c =>
    c.hostFor f.host == source.host && c.ident == source.ident).map (·.kind)

/-- The data of a source, which must not be empty. -/
def fetch (f : Fetcher) (read : SourceReader) (source : Source) : Except FetchError ByteArray :=
  match f.kindOf? source with
  | none => .error (.other s!"no configuration for source {source.label}")
  | some kind =>
    match read kind with
    | .error e => .error e
    | .ok data => if data.isEmpty then .error .emptyOutput else .ok data

/-- The data of some sources. -/
def fetchAll (f : Fetcher) (read : SourceReader) (sources : List Source) : List Fetched :=
  sources.map fun source => (source, f.fetch read source)

end Fetcher

end HostWatch
