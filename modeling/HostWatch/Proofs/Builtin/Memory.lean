/-
Which counters the section `mem` tells of, and when it tells of none.

Every row with a number of 64 bits in its second cell holds a counter, whatever
its other cells say (`hasAmount_iff`), and of the counters whose names are the
same without the colons behind them the last one stays (`get?_counters`). That
is all there is to the section as long as every counter is a number of 64 bits
in bytes too (`tells_of_fits`).

Nothing sees to that. An amount is checked before it is turned into bytes and
not again, so one of 2 ^ 54 or more units of 1024 bytes is too large
(`fits_iff`), and the reader breaks off at it (`parse_of_not_fits`). It does not
wait for the rows that follow: a row that one of them replaces takes the whole
section along as any other does (`replaced_row_breaks_off`).
-/
import HostWatch.Agent.Output
import HostWatch.Builtin.Memory
import HostWatch.Proofs.Decimal.Integer
import HostWatch.Proofs.SortedMap
import HostWatch.Proofs.Text.Lines

namespace HostWatch.Memory

variable {row : List String} {rows : Table} {c : Counter}

-- ==================================================== rows

/-- The second cell of a row is a number of 64 bits. -/
def HasAmount (row : List String) (n : Nat) : Prop :=
  ∃ cell, row[1]? = some cell
    ∧ Decimal.Unsigned cell.toList n ∧ n < UInt64.size

/-- A row holds a counter: the first cell is its name, behind which colons may
stand, the second one its amount, and a third one that is `kB` says that the
amount is in units of 1024 bytes. -/
structure CounterRow (row : List String) (c : Counter) : Prop where
  named : ∃ cell colons, row[0]? = some cell
    ∧ cell.toList = c.name.toList ++ List.replicate colons ':'
  name_end : c.name.toList.getLast? ≠ some ':'
  amount : HasAmount row c.amount
  unit : c.unit = if row[2]? = some "kB" then 1024 else 1

/-- The counter that is read from a row is the one that it holds. -/
theorem readCounter?_eq_some_iff :
    readCounter? row = some c ↔ CounterRow row c := by
  constructor
  · intro h
    unfold readCounter? at h
    split at h
    case h_1 name amount rest =>
      obtain ⟨n, hn, rfl⟩ := Option.map_eq_some_iff.mp h
      obtain ⟨colons, hcolons⟩ :=
        Text.dropEndWhile_append_replicate ':' name.toList
      refine ⟨⟨name, colons, rfl, ?_⟩, ?_,
        ⟨amount, rfl, Decimal.readUnsigned64?_eq_some_iff.mp hn⟩, ?_⟩
      · rw [String.toList_ofList]
        exact hcolons
      · rw [String.toList_ofList]
        exact Text.getLast?_dropEndWhile ':' name.toList
      · simp [List.head?_eq_getElem?]
    case h_2 => cases h
  · rintro ⟨⟨name, colons, hname, hcolons⟩, hend, ⟨amount, hamount, hnumber⟩,
      hunit⟩
    match row, hname, hamount, hunit with
    | _ :: _ :: rest, hname, hamount, hunit =>
      cases hname
      cases hamount
      have hread := Decimal.readUnsigned64?_eq_some_iff.mpr hnumber
      have hcut := (Text.dropEndWhile_eq_iff hend).mpr ⟨colons, hcolons⟩
      have hthird : (if rest.head? == some "kB" then 1024 else 1) = c.unit := by
        rw [hunit]
        simp [List.head?_eq_getElem?]
      rw [readCounter?, hread, Option.map_some, hcut, String.ofList_toList,
        hthird]

/-- Nothing but its second cell decides whether a row holds a counter. -/
theorem hasAmount_iff {n : Nat} :
    HasAmount row n ↔ ∃ c, CounterRow row c ∧ c.amount = n := by
  constructor
  · rintro ⟨cell, hcell, hnumber⟩
    match row, hcell with
    | _ :: _ :: _, hcell =>
      cases hcell
      simp only [← readCounter?_eq_some_iff, readCounter?,
        Decimal.readUnsigned64?_eq_some_iff.mpr hnumber]
      exact ⟨_, rfl, rfl⟩
  · rintro ⟨c, hc, rfl⟩
    exact hc.amount

/-- The counters of a table are those that its rows hold. -/
theorem mem_readCounters :
    c ∈ readCounters rows ↔ ∃ row ∈ rows, CounterRow row c := by
  unfold readCounters
  simp only [List.mem_filterMap, readCounter?_eq_some_iff]

/-- A table has counters exactly if some row has an amount. -/
theorem readCounters_ne_nil_iff :
    readCounters rows ≠ [] ↔ ∃ row ∈ rows, ∃ n, HasAmount row n := by
  rw [ne_eq, List.eq_nil_iff_forall_not_mem, not_forall_not]
  constructor
  · rintro ⟨c, hmem⟩
    obtain ⟨row, hrow, hc⟩ := mem_readCounters.mp hmem
    exact ⟨row, hrow, c.amount, hc.amount⟩
  · rintro ⟨row, hrow, n, hn⟩
    obtain ⟨c, hc, -⟩ := hasAmount_iff.mp hn
    exact ⟨c, mem_readCounters.mpr ⟨row, hrow, hc⟩⟩

-- ==================================================== bytes

/-- No row has an amount of 2 ^ 54 or more in units of 1024 bytes. -/
def Fits (rows : Table) : Prop :=
  ∀ row ∈ rows, row[2]? = some "kB" →
    ∀ n, HasAmount row n → n < UInt64.size / 1024

/-- A counter is a number of 64 bits in bytes, unless it is one of too many
units of 1024. -/
theorem CounterRow.bytes_lt_iff (h : CounterRow row c) :
    c.bytes < UInt64.size
      ↔ (row[2]? = some "kB" → c.amount < UInt64.size / 1024) := by
  obtain ⟨-, -, -, hamount⟩ := h.amount
  have hunit := h.unit
  unfold Counter.bytes
  split at hunit
  case isTrue hkilo =>
    rw [hunit]
    simp only [hkilo, forall_const]
    unfold UInt64.size
    omega
  case isFalse hplain =>
    rw [hunit]
    simpa [hplain] using hamount

/-- A table fits exactly if each of its counters is a number of 64 bits in
bytes. -/
theorem fits_iff :
    Fits rows ↔ ∀ row ∈ rows, ∀ c, CounterRow row c → c.bytes < UInt64.size := by
  constructor
  · intro hfits row hrow c hc
    exact hc.bytes_lt_iff.mpr fun hkilo => hfits row hrow hkilo _ hc.amount
  · intro hbytes row hrow hkilo n hn
    obtain ⟨c, hc, rfl⟩ := hasAmount_iff.mp hn
    exact hc.bytes_lt_iff.mp (hbytes row hrow c hc) hkilo

/-- The reader comes upon a counter that is too large exactly if the table does
not fit. -/
theorem any_too_large_iff :
    (readCounters rows).any (Decimal.maxUnsigned64 < ·.bytes) = true
      ↔ ¬ Fits rows := by
  simp only [List.any_eq_true, decide_eq_true_eq, ← not_le,
    Decimal.le_maxUnsigned64_iff, mem_readCounters, fits_iff, not_forall]
  constructor
  · rintro ⟨c, ⟨row, hrow, hc⟩, hlarge⟩
    exact ⟨row, hrow, c, hc, hlarge⟩
  · rintro ⟨row, hrow, c, hc, hlarge⟩
    exact ⟨c, ⟨row, hrow, hc⟩, hlarge⟩

-- ==================================================== the last one stays

/-- A counter is the last one of its name in a table. -/
def LastCounter (rows : Table) (c : Counter) : Prop :=
  ∃ before row after, rows = before ++ row :: after ∧ CounterRow row c
    ∧ ∀ later ∈ after, ∀ d, CounterRow later d → d.name ≠ c.name

/-- Under a name stands the last counter of that name, in bytes. -/
theorem get?_counters {name : String} {v : Value} :
    (SortedMap.ofList ((readCounters rows).map fun c =>
        (c.name, Value.int c.bytes))).get? name = some v
      ↔ ∃ c, LastCounter rows c ∧ c.name = name ∧ v = .int c.bytes := by
  unfold readCounters
  rw [List.map_filterMap, SortedMap.get?_ofList_filterMap]
  simp only [Option.map_eq_some_iff, readCounter?_eq_some_iff, Prod.mk.injEq,
    ne_eq]
  constructor
  · rintro ⟨before, row, after, hrows, ⟨c, hc, rfl, rfl⟩, hafter⟩
    exact ⟨c, ⟨before, row, after, hrows, hc, fun later hlater d hd hname =>
      hafter later hlater _ ⟨d, hd, hname, rfl⟩⟩, rfl, rfl⟩
  · rintro ⟨c, ⟨before, row, after, hrows, hc, hafter⟩, rfl, rfl⟩
    exact ⟨before, row, after, hrows, ⟨c, hc, rfl, rfl⟩,
      fun later hlater _ ⟨d, hd, hname, _⟩ => hafter later hlater d hd hname⟩

-- ==================================================== the section

/-- An outcome tells of the counters in a table: it is a record with the last
counter of each name, in bytes and as a number of 64 bits; or it is an error,
if no row has an amount. To break off tells of nothing. -/
def Tells (rows : Table) : ParseOutcome → Prop
  | .value v => (∃ row ∈ rows, ∃ n, HasAmount row n)
      ∧ (∃ fields : Fields, v = .ofFields fields
        ∧ ∀ name x, fields.get? name = some x
          ↔ ∃ c, LastCounter rows c ∧ c.name = name ∧ x = .int c.bytes)
      ∧ ∀ c, LastCounter rows c → c.bytes < UInt64.size
  | .failed message => message = "no memory counters"
      ∧ ¬ ∃ row ∈ rows, ∃ n, HasAmount row n
  | .crashed _ => False

/-- The record of the counters that are read tells of them, if those that stay
are numbers of 64 bits. -/
theorem tells_countersValue (hsome : readCounters rows ≠ [])
    (hlast : ∀ c, LastCounter rows c → c.bytes < UInt64.size) :
    Tells rows (.value (countersValue (readCounters rows))) :=
  ⟨readCounters_ne_nil_iff.mp hsome, ⟨_, rfl, fun _ _ => get?_counters⟩, hlast⟩

/-- What is read from a table that fits tells of its counters. -/
theorem tells_of_fits (h : Fits rows) : Tells rows (parse rows) := by
  have hsmall : (readCounters rows).any (Decimal.maxUnsigned64 < ·.bytes)
      = false := by
    rw [Bool.eq_false_iff, ne_eq, any_too_large_iff, not_not]
    exact h
  unfold parse
  simp only [hsmall, Bool.false_eq_true, if_false, List.isEmpty_iff]
  split
  case isTrue hnone =>
    refine ⟨rfl, fun hamount => ?_⟩
    exact readCounters_ne_nil_iff.mpr hamount hnone
  case isFalse hsome =>
    refine tells_countersValue hsome fun c hlast => ?_
    obtain ⟨before, row, after, rfl, hc, -⟩ := hlast
    exact fits_iff.mp h row (by simp) c hc

/-- At a table that does not fit the reader breaks off. -/
theorem parse_of_not_fits (h : ¬ Fits rows) :
    parse rows = .crashed "attempt to multiply with overflow" := by
  unfold parse
  simp only [any_too_large_iff.mpr h, if_true]

/-- What is read from a table tells of its counters exactly if no row has an
amount of 2 ^ 54 or more in units of 1024 bytes; otherwise the reader breaks
off. -/
theorem parse_tells_iff (rows : Table) :
    (Tells rows (parse rows) ↔ Fits rows)
      ∧ (parse rows = .crashed "attempt to multiply with overflow"
        ↔ ¬ Fits rows) := by
  refine ⟨⟨fun htells => ?_, tells_of_fits⟩, fun hcrashed hfits => ?_,
    parse_of_not_fits⟩
  · by_contra hnot
    rw [parse_of_not_fits hnot] at htells
    exact htells
  · have htells := tells_of_fits hfits
    rw [hcrashed] at htells
    exact htells

/-- Colons behind a name, a plus sign and other rows do not matter, and the
largest amounts that fit are told of. -/
example : parse [["MemTotal::", "+16", "kB"], ["Swap:", "lots", "kB"],
      ["MemTotal", "18014398509481983", "kB"], ["Hugepages:"],
      ["Hugepages:", "18446744073709551615"]]
    = .value (.record [("Hugepages", .int 18446744073709551615),
      ("MemTotal", .int 18446744073709550592)]) := by rfl

/-- The total that an agent has got wrong first and right then. -/
def repeatedTotal : Table :=
  [["MemTotal:", "18446744073709551615", "kB"], ["MemTotal:", "1000", "kB"]]

/-- A row breaks the section off even where a later one takes its place, so
that there is something to tell. -/
theorem replaced_row_breaks_off :
    (AgentOutput.parse
        "<<<mem>>>\nMemTotal: 18446744073709551615 kB\nMemTotal: 1000 kB\n"
      ).sections.get? "mem" = some repeatedTotal
      ∧ Tells repeatedTotal (.value (.ofPairs [("MemTotal", .int 1024000)]))
      ∧ parse repeatedTotal = .crashed "attempt to multiply with overflow"
      ∧ ¬ Tells repeatedTotal (parse repeatedTotal) := by
  have hcrashed : parse repeatedTotal
      = .crashed "attempt to multiply with overflow" := rfl
  refine ⟨by decide +kernel, ?_, hcrashed, ?_⟩
  · refine tells_countersValue (by decide +kernel) fun c hlast => ?_
    -- no counter stays but the one of the second row
    have hstays : (c.name, Value.int c.bytes) ∈ [("MemTotal", .int 1024000)] :=
      SortedMap.mem_of_get?_ofList (get?_counters.mpr ⟨c, hlast, rfl, rfl⟩)
    simp only [List.mem_singleton, Prod.mk.injEq, Value.int.injEq] at hstays
    unfold UInt64.size
    omega
  · rw [hcrashed]
    exact id

end HostWatch.Memory
