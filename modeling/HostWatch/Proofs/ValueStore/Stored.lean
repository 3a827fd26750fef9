/-
What is stored is found again.

The stored form is a list of records, one for each namespace that is not
empty, and a map is made of what is read. So nothing is lost of a store that
has no empty namespaces (`decode_toValue`): its keys are all different, and
none of them is left out. What remains is that the text is read as what it
was written for (`ReadsBack`; see `readsBack_of_storable` for when it is), and
that the file has the text: it is written under another name first and then
moved, which ends up where the path leads before and after (`load_save`).
-/
import HostWatch.Proofs.Disk
import HostWatch.Proofs.Document
import HostWatch.Proofs.Value.ReadBack
import HostWatch.Proofs.ValueStore
import HostWatch.ValueStore.Stored

namespace HostWatch

-- ==================================================== keys

namespace NamespaceKey

/-- The identity of a service is read back. -/
private theorem decodeService_ofValue (id : ServiceId) :
    decodeService (.ofValue (serviceValue id)) = some id := by
  unfold decodeService serviceValue
  rw [Slot.ofDocument?_ofPairs (.swap _ _ [])]
  · show (Decoder.text.optional (.ofValue (.ofText? id.item))).bind
      (fun item => some (ServiceId.mk id.plugin item)) = _
    rw [Decoder.optional_text_ofValue]
    rfl
  · show ["item", "name"].Pairwise fun a b => compare a b = .lt
    decide

/-- A key is read back. -/
theorem decode_ofValue (key : NamespaceKey) :
    decode (.ofValue key.toValue) = some key := by
  unfold decode toValue
  rw [Slot.ofDocument?_ofPairs (.cons _ (.swap _ _ []))]
  · show (decodeService (.ofValue (serviceValue key.service))).bind
      (fun service =>
        (Decoder.text.optional (.ofValue (.ofText? key.node))).bind fun node =>
          some (NamespaceKey.mk key.host service node)) = _
    rw [decodeService_ofValue, Decoder.optional_text_ofValue]
    rfl
  · show ["host", "node", "service"].Pairwise fun a b => compare a b = .lt
    decide

end NamespaceKey

namespace ValueStore

variable {s : ValueStore}

-- ==================================================== the stored form

/-- The records in the values of a store are in order, as in all data. -/
def Ordered (s : ValueStore) : Prop :=
  ∀ key values, s.get? key = some values →
    ∀ name v, values.get? name = some v → v.Ordered

/-- A namespace is read back with its key. -/
private theorem decodeEntry_toValue (key : NamespaceKey) {values : Namespace}
    (h : ∀ name v, values.get? name = some v → v.Ordered) :
    decodeEntry (.ofValue
        (.ofPairs [("key", key.toValue), ("values", .ofFields values)]))
      = some (key, values) := by
  unfold decodeEntry
  rw [Slot.ofDocument?_ofPairs (.refl _)]
  · show (NamespaceKey.decode (.ofValue key.toValue)).bind (fun key =>
      ((Decoder.any.map (.ofValue (.ofFields values))).bind fun values =>
        some (key, values))) = _
    rw [key.decode_ofValue, Decoder.map_any_ofValue h]
    rfl
  · show ["key", "values"].Pairwise fun a b => compare a b = .lt
    decide

/-- A store without empty namespaces is what its stored form says. -/
theorem decode_toValue (hcompact : s.Compact) (hordered : s.Ordered) :
    decode (.ofValue s.toValue) = some s := by
  have hget : ∀ entry ∈ s.namespaces.entries,
      s.get? entry.1 = some entry.2 :=
    fun entry hentry => (SortedMap.mem_entries_iff _ _ _).mp hentry
  unfold decode toValue
  rw [List.filter_eq_self.mpr, Decoder.list_ofValue]
  · rw [Option.map_some, SortedMap.ofList_entries]
  · intro entry hentry
    exact decodeEntry_toValue entry.1 (hordered _ _ (hget entry hentry))
  · intro entry hentry
    show (!entry.2.isEmpty) = true
    rw [hcompact _ _ (hget entry hentry)]
    rfl

-- ==================================================== the text

/-- The text for a store is read as what it was written for. -/
structure ReadsBack (s : ValueStore) : Prop where
  text : Document.read? .data s.text = some (.ofValue s.toValue)
  ordered : s.Ordered

/-- A store without empty namespaces is what its text says. -/
theorem ofText?_text (hcompact : s.Compact) (hback : s.ReadsBack) :
    ofText? s.text = some s := by
  unfold ofText?
  rw [hback.text, Option.bind_some, decode_toValue hcompact hback.ordered]

/-- The stored form of a store is nested three levels deeper than its values,
and has nothing but texts besides them. -/
private theorem storable_toValue {n : Nat} (hn : 0 < n)
    (h : ∀ key values, s.get? key = some values →
      ∀ name v, values.get? name = some v → v.Storable n) :
    s.toValue.Storable (n + 3) := by
  obtain ⟨m, rfl⟩ : ∃ m, n = m + 1 := ⟨n - 1, by omega⟩
  have hkey : ∀ key : NamespaceKey, key.toValue.Storable (m + 2) := by
    intro key
    refine .ofPairs ?_
    rw [List.forall_mem_cons, List.forall_mem_cons, List.forall_mem_singleton]
    refine ⟨.text _, .ofPairs ?_, .ofText? _⟩
    rw [List.forall_mem_cons, List.forall_mem_singleton]
    exact ⟨.text _, .ofText? _⟩
  have hentry : ∀ entry ∈ s.namespaces.entries,
      (Value.ofPairs [("key", entry.1.toValue),
        ("values", .ofFields entry.2)]).Storable (m + 3) := by
    intro entry hentry
    have hget := (SortedMap.mem_entries_iff _ _ _).mp hentry
    refine .ofPairs ?_
    rw [List.forall_mem_cons, List.forall_mem_singleton]
    exact ⟨hkey entry.1, .ofFields (h _ _ hget)⟩
  refine .list fun v hv => ?_
  obtain ⟨entry, hmem, rfl⟩ := List.mem_map.mp hv
  exact hentry entry (List.mem_filter.mp hmem).1

/-- The text for a store is read as what it was written for, if its values can
be stored and leave three levels of nesting to the stored form. -/
theorem readsBack_of_storable {n : Nat}
    (hn : n + 3 ≤ Document.depthLimit .data) (hordered : s.Ordered)
    (h : ∀ key values, s.get? key = some values →
      ∀ name v, values.get? name = some v → v.Storable n) : s.ReadsBack where
  text := by
    let room := Document.depthLimit .data - 3
    have hroom : n ≤ room := Nat.le_sub_of_add_le hn
    have hstored : s.toValue.Storable (room + 3) :=
      storable_toValue (by decide) fun key values hvalues name v hv =>
        (h key values hvalues name v hv).mono hroom
    exact Value.read?_pretty hstored (by decide)
  ordered := hordered

-- ==================================================== the file

/-- What has been saved is the text for the store, under its path. -/
theorem read_of_save {disk saved : Disk} {path : Path}
    (h : s.save disk path = (.ok (), saved)) :
    saved.read path = .ok s.text.toUTF8 := by
  unfold save at h
  split at h
  case h_1 => cases h
  case h_2 ready _ =>
    unfold replace at h
    split at h
    case h_1 => cases h
    case h_2 drafted hdrafted =>
      split at h
      case h_1 => cases h
      case h_2 renamed hrenamed =>
        cases h
        rw [Disk.read_rename hrenamed, Disk.read_write hdrafted]

/-- What has been saved is loaded again. -/
theorem load_save {disk saved : Disk} {path : Path} (hcompact : s.Compact)
    (hback : s.ReadsBack) (h : s.save disk path = (.ok (), saved)) :
    load saved path = .ok s := by
  have hread := read_of_save h
  unfold load
  rw [Disk.contains_of_read hread, if_pos rfl, Disk.readText_of_read hread]
  simp only [ofText?_text hcompact hback]

end ValueStore

end HostWatch
