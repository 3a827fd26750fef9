/-
Made-up sources and what they deliver, described by records.
-/
import HostWatch.Source
import HostWatch.Value.Lenient

namespace HostWatch.Rehearsal

open Lenient

/-- Reads a source type; whatever is not said to be a management board is a host. -/
def sourceTypeOf (v : Value) : SourceType :=
  if v.text? == some "management" then .management else .host

/-- Reads a source. -/
def sourceOf (v : Value) : Source :=
  let host := text v "host"
  match text v "fixture" with
  | "agent" => .agent host
  | "management" => .managementBoard host
  | _ =>
    { host, ident := (text? v "ident").getD "agent"
      fetcher := ((text? v "fetcher").bind fun name =>
        FetcherType.all.find? fun f => f.name == name).getD .tcp
      sourceType := sourceTypeOf (field v "type") }

/-- Reads a section that an agent delivers. -/
def agentSection (v : Value) : AgentOutput.Section where
  name := text v "name"
  lines := texts v "lines"
  cacheInfo := match items v "cached" with
    | [.int time, .int age] => some ⟨time, age⟩
    | _ => none

/-- The text of an agent that delivers some sections. -/
def agentText (sections : List Value) : ByteArray :=
  (AgentOutput.write (sections.map agentSection)).toUTF8

/-- Reads how fetching fails. -/
def fetchError (v : Value) : FetchError :=
  match text? v "connection", field v "timeout", text? v "other" with
  | some reason, _, _ => .connection reason
  | none, .int seconds, _ => .timeout seconds.toNat
  | none, _, some reason => .other reason
  | none, _, none => .emptyOutput

/-- Reads what a source has delivered. -/
def fetched (v : Value) : Fetched :=
  (sourceOf v,
    match given? v "error" with
    | some e => .error (fetchError e)
    | none =>
      match given? v "sections" with
      | some _ => .ok (agentText (items v "sections"))
      | none => .ok (bytes (field v "data")))

end HostWatch.Rehearsal
