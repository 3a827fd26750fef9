/-
Values as documents, and back.

The document of a value denotes that value again (`value?_ofValue`), if the
fields of its records stand by increasing name, as they do in all data
(`Value.Ordered`), which is also how any document denotes them
(`ordered_of_value?`). A structure is read from such a document field by field:
no name occurs twice in a record that was made of pairs, in whatever order,
so every slot holds the one field of its name (`Slot.ofDocument?_ofPairs`).
-/
import HostWatch.Document.Decode
import HostWatch.Proofs.SortedMap

namespace HostWatch

/-- A list is read item by item, where every item is read. -/
theorem mapM_map_eq_some {α β γ : Type} {read : β → Option γ} {write : α → β}
    {result : α → γ} {items : List α}
    (h : ∀ a ∈ items, read (write a) = some (result a)) :
    (items.map write).mapM read = some (items.map result) := by
  induction items with
  | nil => rfl
  | cons a rest ih =>
      rw [List.forall_mem_cons] at h
      rw [List.map_cons, List.mapM_cons, h.1, ih h.2]
      rfl

/-- What has been read of a list has been read of its items. -/
theorem exists_of_mapM_eq_some {α β : Type} {read : α → Option β} {b : β} :
    ∀ {items : List α} {results : List β}, items.mapM read = some results →
      b ∈ results → ∃ a ∈ items, read a = some b := by
  intro items
  induction items with
  | nil =>
      intro results h hb
      cases h
      cases hb
  | cons a rest ih =>
      intro results h hb
      rw [List.mapM_cons] at h
      obtain ⟨first, hfirst, h⟩ := Option.bind_eq_some_iff.mp h
      obtain ⟨later, hlater, h⟩ := Option.bind_eq_some_iff.mp h
      cases h
      rcases List.mem_cons.mp hb with rfl | hb
      · exact ⟨a, List.mem_cons_self .., hfirst⟩
      · obtain ⟨a', ha', hread⟩ := ih hlater hb
        exact ⟨a', List.mem_cons_of_mem _ ha', hread⟩

-- ==================================================== ordered records

namespace Value

/-- The fields of all records in a value stand by increasing name. -/
inductive Ordered : Value → Prop
  | null : Ordered .null
  | bool (b : Bool) : Ordered (.bool b)
  | int (n : Int) : Ordered (.int n)
  | float (x : Float) : Ordered (.float x)
  | text (s : String) : Ordered (.text s)
  | list {items : List Value} (items_ordered : ∀ v ∈ items, Ordered v) :
      Ordered (.list items)
  | record {fields : List (String × Value)}
      (sorted : fields.Pairwise fun a b => compare a.1 b.1 = .lt)
      (fields_ordered : ∀ field ∈ fields, Ordered field.2) :
      Ordered (.record fields)

/-- The record of some fields, given in any order, has them by increasing
name. -/
theorem ofPairs_eq {fields sorted : List (String × Value)}
    (hperm : fields.Perm sorted)
    (hsorted : (sorted.map (·.1)).Pairwise fun a b => compare a b = .lt) :
    ofPairs fields = .record sorted := by
  let m : SortedMap String Value := ⟨sorted, List.pairwise_map.mp hsorted⟩
  have hunique : ∀ k v v', (k, v) ∈ fields → (k, v') ∈ fields → v = v' := by
    intro k v v' hv hv'
    have hget := (m.mem_entries_iff k v).mp (hperm.mem_iff.mp hv)
    have hget' := (m.mem_entries_iff k v').mp (hperm.mem_iff.mp hv')
    rw [hget] at hget'
    exact Option.some.inj hget'
  have hmap : SortedMap.ofList fields = m := by
    rw [SortedMap.ofList_congr hunique fun e => hperm.mem_iff]
    exact SortedMap.ofList_entries m
  unfold ofPairs ofFields
  rw [hmap]

end Value

-- ==================================================== values as documents

namespace Document

theorem ofItems_eq_map (items : List Value) :
    ofItems items = items.map ofValue := by
  induction items with
  | nil => rfl
  | cons v rest ih => rw [ofItems, ih, List.map_cons]

theorem ofFields_eq_map (fields : List (String × Value)) :
    ofFields fields = fields.map fun field => (field.1, ofValue field.2) := by
  induction fields with
  | nil => rfl
  | cons field rest ih => rw [ofFields, ih, List.map_cons]

private theorem itemValues?_ofItems {items : List Value}
    (h : ∀ v ∈ items, (ofValue v).value? = some v) :
    itemValues? (ofItems items) = some items := by
  induction items with
  | nil => rfl
  | cons v rest ih =>
      rw [List.forall_mem_cons] at h
      rw [ofItems, itemValues?, h.1, ih h.2]
      rfl

private theorem fieldValues?_ofFields {fields : List (String × Value)}
    (h : ∀ field ∈ fields, (ofValue field.2).value? = some field.2) :
    fieldValues? (ofFields fields) = some fields := by
  induction fields with
  | nil => rfl
  | cons field rest ih =>
      rw [List.forall_mem_cons] at h
      rw [ofFields, fieldValues?, h.1, ih h.2]
      rfl

/-- The document of a value denotes the value. -/
theorem value?_ofValue {v : Value} (h : v.Ordered) :
    (ofValue v).value? = some v := by
  induction h with
  | null => rfl
  | bool b => rfl
  | int n => rfl
  | float x => rfl
  | text s => rfl
  | list _ ih =>
      rw [ofValue, value?, itemValues?_ofItems ih]
      rfl
  | record sorted _ ih =>
      rw [ofValue, value?, fieldValues?_ofFields ih, Option.map_some,
        Value.ofPairs_eq (.refl _) (List.pairwise_map.mpr sorted)]

/-- A number or a bare word denotes no list and no record. -/
private theorem ordered_of_plainValue? {written : String} {v : Value}
    (h : plainValue? written = some v) : v.Ordered := by
  have hnearest : (nearestOrText written).Ordered := by
    unfold nearestOrText
    split
    · split
      · exact .float _
      · exact .text _
    · exact .text _
  unfold plainValue? at h
  split at h
  · cases h; exact .null
  · cases h; exact .bool _
  · cases h; exact .bool _
  · split at h
    · split at h
      · cases h; exact .int _
      · split at h
        · cases h
        · cases h; exact hnearest
    · cases h; exact hnearest

mutual

/-- What a document denotes has the fields of its records in order, whatever
order they are written in. -/
theorem ordered_of_value? :
    ∀ (d : Document) {v : Value}, d.value? = some v → v.Ordered
  | .null, _, h => by cases h; exact .null
  | .bool b, _, h => by cases h; exact .bool b
  | .int n, _, h => by cases h; exact .int n
  | .float x, _, h => by cases h; exact .float x
  | .text s, _, h => by cases h; exact .text s
  | .plain _, _, h => ordered_of_plainValue? h
  | .list items, _, h => by
      obtain ⟨values, hvalues, rfl⟩ := Option.map_eq_some_iff.mp h
      exact .list (ordered_of_itemValues? items hvalues)
  | .record fields, _, h => by
      obtain ⟨values, hvalues, rfl⟩ := Option.map_eq_some_iff.mp h
      refine .record (SortedMap.ofList values).sorted fun field hfield => ?_
      have hget := (SortedMap.mem_entries_iff _ _ _).mp hfield
      exact ordered_of_fieldValues? fields hvalues _
        (SortedMap.mem_of_get?_ofList hget)
  | .broken, _, h => by cases h

private theorem ordered_of_itemValues? :
    ∀ (items : List Document) {values : List Value},
      itemValues? items = some values → ∀ v ∈ values, v.Ordered
  | [], _, h => by cases h; exact fun _ hv => by cases hv
  | d :: rest, _, h => by
      obtain ⟨v, hv, h⟩ := Option.bind_eq_some_iff.mp h
      obtain ⟨values, hvalues, h⟩ := Option.bind_eq_some_iff.mp h
      cases h
      exact List.forall_mem_cons.mpr
        ⟨ordered_of_value? d hv, ordered_of_itemValues? rest hvalues⟩

private theorem ordered_of_fieldValues? :
    ∀ (fields : List (String × Document)) {values : List (String × Value)},
      fieldValues? fields = some values → ∀ field ∈ values, field.2.Ordered
  | [], _, h => by cases h; exact fun _ hfield => by cases hfield
  | (_, d) :: rest, _, h => by
      obtain ⟨v, hv, h⟩ := Option.bind_eq_some_iff.mp h
      obtain ⟨values, hvalues, h⟩ := Option.bind_eq_some_iff.mp h
      cases h
      exact List.forall_mem_cons.mpr
        ⟨ordered_of_value? d hv, ordered_of_fieldValues? rest hvalues⟩

end

end Document

-- ==================================================== decoding

/-- In a record in which no name occurs twice, a slot holds the field of its
name. -/
private theorem Slot.ofDocument?_record {dialect : Dialect}
    {names : List String} {fields : List (String × Document)} (h : (fields.map (·.1)).Nodup) :
    Slot.ofDocument? dialect names (.record fields)
      = some fun name =>
          match fields.lookup name with
          | some d => .given d
          | none => .absent := by
  have honce : ∀ name, fields.countP (·.1 == name) ≤ 1 := by
    intro name
    have hcount : (fields.map (·.1)).count name ≤ 1 :=
      List.nodup_iff_count.mp h name
    rw [List.count, List.countP_map] at hcount
    exact hcount
  have hrepeats : (Document.record fields).repeats names = false := by
    rw [Bool.eq_false_iff]
    intro hrepeats
    obtain ⟨name, -, htwice⟩ := List.any_eq_true.mp hrepeats
    exact absurd (honce name) (by simpa using htwice)
  unfold ofDocument?
  simp only [hrepeats]
  exact if_neg Bool.false_ne_true

/-- In the document of a record, a slot holds the field of its name. -/
theorem Slot.ofDocument?_ofPairs {dialect : Dialect} {names : List String}
    {fields sorted : List (String × Value)} (hperm : fields.Perm sorted)
    (hsorted : (sorted.map (·.1)).Pairwise fun a b => compare a b = .lt) :
    Slot.ofDocument? dialect names (.ofValue (.ofPairs fields))
      = some fun name =>
          match (Document.ofFields sorted).lookup name with
          | some d => .given d
          | none => .absent := by
  rw [Value.ofPairs_eq hperm hsorted, Document.ofValue]
  refine ofDocument?_record ?_
  rw [Document.ofFields_eq_map, List.map_map]
  refine hsorted.imp fun {a b} hlt heq => ?_
  rw [heq, Std.ReflOrd.compare_self] at hlt
  cases hlt

namespace Decoder

/-- A list is read back from what is written for its items, if they are. -/
theorem list_ofValue {α : Type} {decoder : Decoder α} {write : α → Value}
    {items : List α} (h : ∀ a ∈ items, decoder (.ofValue (write a)) = some a) :
    decoder.list (.ofValue (.list (items.map write))) = some items := by
  have hitems : (items.map fun a => Document.ofValue (write a)).mapM decoder
      = some (items.map fun a => a) := mapM_map_eq_some h
  rw [Document.ofValue, Document.ofItems_eq_map, List.map_map]
  exact hitems.trans (congrArg some (List.map_id' _))

/-- A text that may be missing is read back. -/
theorem optional_text_ofValue (t : Option String) :
    text.optional (.ofValue (.ofText? t)) = some t := by
  cases t with
  | none => rfl
  | some s => rfl

/-- A map is read back from the record with its values. -/
theorem map_any_ofValue {fields : Fields}
    (h : ∀ name v, fields.get? name = some v → v.Ordered) :
    any.map (.ofValue (.ofFields fields)) = some fields := by
  have hfields : ∀ field ∈ fields.entries,
      ((any (.ofValue field.2)).map fun v => (field.1, v)) = some field := by
    intro field hfield
    have hget := (SortedMap.mem_entries_iff fields _ _).mp hfield
    have hread : any (.ofValue field.2) = some field.2 :=
      Document.value?_ofValue (h _ _ hget)
    rw [hread, Option.map_some]
  rw [Value.ofFields, Document.ofValue, Document.ofFields_eq_map, Decoder.map,
    mapM_map_eq_some hfields, List.map_id', Option.map_some,
    SortedMap.ofList_entries]

end Decoder

end HostWatch
