/-
Configured parameters are read as what they were written for.

Reading has a choice to make: a value is a list of sets if all of it can be
read as sets, and otherwise it is one value for all times. Writing has none, it
makes a list of sets out of anything. So there are two ways to lose parameters,
and neither is one. A written list of sets cannot be taken for anything else,
as each set stands in it as a record with both of its fields, and the reader
looks at nothing but these two (`readSet?_writeSet`): the values in them may
look like sets, lists of sets or nothing at all. And a single value that looks
like a list of sets does not turn into one, as it is written within a set.

Documents and texts come on top of that. The fields of a written set are there
once each, so no set is refused for a field that is given twice
(`decode_ofValue`); and for what has been read from a document once there is
nothing else to ask (`ordered_of_decode`).
-/
import HostWatch.Parameters
import HostWatch.Proofs.Document
import HostWatch.Proofs.Value.ReadBack

namespace HostWatch

-- ==================================================== sets

namespace ParameterSet

/-- The values of a set have the fields of their records in order, as all data
has. -/
structure Ordered (set : ParameterSet) : Prop where
  default : set.default.Ordered
  periodValues : ∀ entry ∈ set.periodValues, entry.2.Ordered

/-- The values of a set can be stored `n` deep. -/
structure Storable (n : Nat) (set : ParameterSet) : Prop where
  default : set.default.Storable n
  periodValues : ∀ entry ∈ set.periodValues, entry.2.Storable n

end ParameterSet

namespace ParameterConfig

variable {c : ParameterConfig} {set : ParameterSet} {n : Nat}

/-- A set is read back, whatever values it has. -/
theorem readSet?_writeSet (set : ParameterSet) :
    readSet? (writeSet set) = some set := by
  have hperiods : (set.periodValues.map fun entry =>
        Value.list [.text entry.1, entry.2]).mapM readPeriodValue?
      = some (set.periodValues.map fun entry => entry) :=
    mapM_map_eq_some fun _ _ => rfl
  rw [List.map_id'] at hperiods
  unfold readSet? writeSet
  simp [SortedMap.find?_cons, Value.items?, hperiods]

/-- Parameters are read back, whatever values they have. -/
theorem ofValue_toValue (c : ParameterConfig) : ofValue c.toValue = c := by
  have hsets : (c.sets.map writeSet).mapM readSet?
      = some (c.sets.map fun set => set) :=
    mapM_map_eq_some fun set _ => readSet?_writeSet set
  rw [List.map_id'] at hsets
  unfold ofValue toValue readSets?
  simp only [hsets]

-- ==================================================== documents

/-- The values of some parameters have the fields of their records in order, as
all data has. -/
def Ordered (c : ParameterConfig) : Prop := ∀ set ∈ c.sets, set.Ordered

theorem ordered_toValue (h : c.Ordered) : c.toValue.Ordered := by
  refine .list (List.forall_mem_map.mpr fun set hset => ?_)
  obtain ⟨hdefault, hperiods⟩ := h set hset
  have hnames : compare "default" "timeperiod_values" = .lt := by decide
  refine .record (List.pairwise_pair.mpr hnames) ?_
  rw [List.forall_mem_cons, List.forall_mem_singleton]
  refine ⟨hdefault, .list (List.forall_mem_map.mpr fun entry hentry => ?_)⟩
  refine .list ?_
  rw [List.forall_mem_cons, List.forall_mem_singleton]
  exact ⟨.text _, hperiods entry hentry⟩

/-- A set is written with each of its fields once. -/
theorem repeatsFields_ofValue (c : ParameterConfig) :
    repeatsFields (.ofValue c.toValue) = false := by
  unfold toValue
  rw [Document.ofValue, Document.ofItems_eq_map, List.map_map]
  show (c.sets.map (Document.ofValue ∘ writeSet)).any
    (Document.repeats ["default", "timeperiod_values"]) = false
  rw [List.any_map, List.any_eq_false]
  intro set _
  rw [Bool.not_eq_true]
  rfl

/-- What is written of parameters is read from a document, too. -/
theorem decode_ofValue (h : c.Ordered) : decode (.ofValue c.toValue) = some c := by
  unfold decode
  rw [Document.value?_ofValue (ordered_toValue h), Option.map_some,
    repeatsFields_ofValue, if_neg Bool.false_ne_true, ofValue_toValue]

/-- The values for time periods are among those that they are read from. -/
private theorem ordered_of_readPeriodValues? {items : List Value}
    {entries : List (PeriodName × Value)} (hitems : ∀ v ∈ items, v.Ordered)
    (h : items.mapM readPeriodValue? = some entries) :
    ∀ entry ∈ entries, entry.2.Ordered := by
  intro entry hentry
  obtain ⟨item, hitem, hread⟩ := exists_of_mapM_eq_some h hentry
  have hordered := hitems item hitem
  unfold readPeriodValue? at hread
  split at hread
  case h_1 period v =>
    cases hread
    cases hordered with
    | list hpair => exact hpair v (by simp)
  case h_2 => cases hread

/-- The values of a set are among those that it is read from. -/
private theorem ordered_of_readSet? {v : Value} (hv : v.Ordered)
    (h : readSet? v = some set) : set.Ordered := by
  unfold readSet? at h
  split at h
  case h_1 fields =>
    cases hv with
    | record _ hfields =>
    have hfield : ∀ {name v}, SortedMap.find? name fields = some v →
        v.Ordered := fun hfind => hfields _ (SortedMap.mem_of_find? hfind)
    obtain ⟨default, hdefault, h⟩ := Option.bind_eq_some_iff.mp h
    dsimp only at h
    split at h
    case h_1 =>
      cases h
      exact ⟨hfield hdefault, fun _ h => by cases h⟩
    case h_2 periods hperiods =>
      obtain ⟨entries, hread, h⟩ := Option.bind_eq_some_iff.mp h
      obtain ⟨items, hitems, hread⟩ := Option.bind_eq_some_iff.mp hread
      cases h
      have hlist := hfield hperiods
      unfold Value.items? at hitems
      split at hitems
      case h_1 =>
        cases hitems
        cases hlist with
        | list hlist =>
        exact ⟨hfield hdefault, ordered_of_readPeriodValues? hlist hread⟩
      case h_2 => cases hitems
  case h_2 default =>
    cases h
    cases hv with
    | list hitems =>
    exact ⟨hitems default (List.mem_cons_self ..), fun _ h => by cases h⟩
  case h_3 default items =>
    obtain ⟨entries, hread, h⟩ := Option.bind_eq_some_iff.mp h
    cases h
    cases hv with
    | list hitems =>
    rw [List.forall_mem_cons, List.forall_mem_singleton] at hitems
    cases hitems.2 with
    | list hperiods =>
    exact ⟨hitems.1, ordered_of_readPeriodValues? hperiods hread⟩
  case h_4 => cases h

/-- A value that is taken as it is is a set with nothing else in it. -/
private theorem ordered_legacy {v : Value} (hv : v.Ordered) :
    (legacy v).Ordered :=
  List.forall_mem_singleton.mpr ⟨hv, fun _ h => by cases h⟩

private theorem ordered_ofValue {v : Value} (hv : v.Ordered) :
    (ofValue v).Ordered := by
  unfold ofValue
  split
  case h_1 sets hsets =>
    intro set hset
    unfold readSets? at hsets
    split at hsets
    case h_1 items =>
      obtain ⟨item, hitem, hread⟩ := exists_of_mapM_eq_some hsets hset
      cases hv with
      | list hitems => exact ordered_of_readSet? (hitems item hitem) hread
    case h_2 => cases hsets
  case h_2 =>
    split
    case h_1 => exact fun _ h => by cases h
    case h_2 => exact ordered_legacy hv

/-- What is read from a document is as all data. -/
theorem ordered_of_decode {d : Document} (h : decode d = some c) :
    c.Ordered := by
  obtain ⟨v, hvalue, rfl⟩ := Option.map_eq_some_iff.mp h
  have hv := Document.ordered_of_value? d hvalue
  split
  · exact ordered_legacy hv
  · exact ordered_ofValue hv

-- ==================================================== texts

/-- Parameters are stored four levels deeper than the values that they have for
time periods. -/
private theorem storable_toValue (h : ∀ set ∈ c.sets, set.Storable n) :
    c.toValue.Storable (n + 4) := by
  refine .list (List.forall_mem_map.mpr fun set hset => ?_)
  obtain ⟨hdefault, hperiods⟩ := h set hset
  refine .record ?_
  rw [List.forall_mem_cons, List.forall_mem_singleton]
  refine ⟨hdefault.mono (by omega),
    .list (List.forall_mem_map.mpr fun entry hentry => .list ?_)⟩
  rw [List.forall_mem_cons, List.forall_mem_singleton]
  exact ⟨.text _, hperiods entry hentry⟩

/-- Configured parameters are read as what they were written for, whatever
values they have: as a value, and as a document, for which nothing is asked but
that the records in them are as in all data. That is so for all that has been
read from a document before. Their text is read back, too, if the values can be
stored in it. -/
theorem toValue_reads_back (c : ParameterConfig) :
    ofValue c.toValue = c
      ∧ (c.Ordered → decode (.ofValue c.toValue) = some c)
      ∧ (∀ d, decode d = some c → decode (.ofValue c.toValue) = some c)
      ∧ ∀ n, n + 4 ≤ Document.depthLimit .data →
        (∀ set ∈ c.sets, set.Storable n) → c.Ordered →
        (Document.read? .data c.toValue.pretty).bind decode = some c := by
  refine ⟨ofValue_toValue c, decode_ofValue,
    fun d h => decode_ofValue (ordered_of_decode h),
    fun n hn hstorable hordered => ?_⟩
  rw [Value.read?_pretty (storable_toValue hstorable) hn, Option.bind_some,
    decode_ofValue hordered]

/-- A single value that looks like a list of sets is read back as well, and not
as those sets. -/
example :
    let v : Value := .list [.list [.int 80]]
    (ofValue v).sets.map (·.default) = [.int 80]
      ∧ (legacy v).toValue
        = .list [.record [("default", v), ("timeperiod_values", .list [])]]
      ∧ ofValue (legacy v).toValue = legacy v := ⟨rfl, rfl, ofValue_toValue _⟩

end ParameterConfig

end HostWatch
