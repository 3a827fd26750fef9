/-
The raw sections of a host: tables of cells by section name, with the age
of the sections that an agent delivers from a cache.

Sections that arrive twice are joined: their rows follow one another, and
of two ages the older one stays.
-/
import HostWatch.Name
import HostWatch.Document.Decode

namespace HostWatch

/-- The rows of a section, each cut into cells. -/
abbrev Table := List (List String)

/-- When the data of a section was obtained and how old it may get, in seconds. -/
structure CacheInfo where
  retrievalTime : Int
  maxAge : Int
deriving DecidableEq, Repr

namespace CacheInfo

/-- The earliest retrieval and the longest age of two. -/
def envelope (a b : CacheInfo) : CacheInfo where
  retrievalTime := min a.retrievalTime b.retrievalTime
  maxAge := max a.maxAge b.maxAge

/-- The earliest retrieval and the longest age of some, if there are any. -/
def aggregate : List CacheInfo → Option CacheInfo
  | [] => none
  | info :: rest => some (rest.foldl envelope info)

/-- The older of two; the first one when they are equally old. -/
def older (a b : CacheInfo) : CacheInfo :=
  if b.retrievalTime < a.retrievalTime then b else a

/-- An age as a value. -/
def toValue (i : CacheInfo) : Value :=
  .ofPairs [("retrieval_time", .int i.retrievalTime), ("max_age", .int i.maxAge)]

/-- Reads an age. -/
def decode : Decoder CacheInfo := fun d => do
  let slot ← Slot.ofDocument? .data ["retrieval_time", "max_age"] d
  let retrievalTime ← (slot "retrieval_time").required Decoder.signed64
  let maxAge ← (slot "max_age").required Decoder.signed64
  pure { retrievalTime, maxAge }

end CacheInfo

/-- The raw sections of a host and the ages that are known of them. -/
structure HostSections where
  sections : SortedMap SectionName Table
  cacheInfo : SortedMap SectionName CacheInfo

namespace HostSections

/-- No sections. -/
def empty : HostSections := ⟨∅, ∅⟩

instance : EmptyCollection HostSections := ⟨empty⟩
instance : Inhabited HostSections := ⟨empty⟩

/-- Whether there is no section. -/
def isEmpty (h : HostSections) : Bool := h.sections.isEmpty

/-- The sections with more rows at the end of one of them. -/
def addSection (h : HostSections) (name : SectionName) (rows : Table)
    (info : Option CacheInfo) : HostSections where
  sections := h.sections.insert name ((h.sections.get? name).getD [] ++ rows)
  cacheInfo :=
    match info with
    | none => h.cacheInfo
    | some i =>
      h.cacheInfo.insert name
        (match h.cacheInfo.get? name with
        | some known => known.older i
        | none => i)

/-- The sections of two sources one after the other. -/
def extend (h other : HostSections) : HostSections :=
  other.sections.entries.foldl (fun acc e => acc.addSection e.1 e.2 (other.cacheInfo.get? e.1)) h

end HostSections

/-- The sections of each host key, those of one key joined in order. -/
def groupByHost (sources : List (HostKey × HostSections)) : SortedMap HostKey HostSections :=
  sources.foldl (fun acc e => acc.insert e.1 (((acc.get? e.1).getD ∅).extend e.2)) ∅

end HostWatch
