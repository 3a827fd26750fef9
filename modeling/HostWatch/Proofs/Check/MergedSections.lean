/-
What a section of a cluster holds once the nodes' sections are merged.

The nodes are taken in order, and each section of a node is joined with what
the nodes before it have brought together. Under one name that is a fold over
the contents of the nodes that have one (`contentsOf`, `section?_mergeSections`);
a node that knows the section and has nothing for it leaves a name behind and
no content.

# Runs

Joining is not associative. Lists are put one behind the other and records
laid over one another, but a content of another kind takes the place of
everything before it: of a list, a record and a list, in this order, only the
last list stays, however long the first one is. So nothing counts but the
contents that are of the kind of the last one, up to the first one from behind
that is not. `lastRun` takes these from the end of the list, and `IsMergeOf`
says what they come to. One more content either goes on with the run or begins
a new one (`lastRun_concat`); in the first case it is joined
(`IsMergeOf.concat`), and in the second it stays by itself
(`mergeValues_of_ne`).

Lists and records lose nothing if nothing else comes in between, and that is
the case where every node delivers what the section is meant to hold.
-/
import HostWatch.Check.Cluster
import HostWatch.Proofs.Parameters
import Mathlib.Data.List.DropRight
import Mathlib.Data.List.Induction

namespace HostWatch

-- ==================================================== kinds of contents

/-- How a content is joined with others. -/
inductive ContentKind where
  /-- Its items come behind those before it. -/
  | list
  /-- Its fields are laid over those before it. -/
  | record
  /-- It is not joined. -/
  | single
deriving DecidableEq

namespace Value

def contentKind : Value → ContentKind
  | .list _ => .list
  | .record _ => .record
  | _ => .single

/-- What a content holds under a key, if it is a record. -/
def under? (k : String) (v : Value) : Option Value :=
  v.fields?.bind (·.get? k)

theorem contentKind_eq_list_iff {v : Value} :
    v.contentKind = .list ↔ ∃ items, v = .list items := by
  cases v <;> simp [contentKind]

theorem contentKind_eq_record_iff {v : Value} :
    v.contentKind = .record ↔ ∃ fields, v.fields? = some fields := by
  cases v <;> simp [contentKind, fields?]

end Value

/-- A content takes the place of those of another kind. -/
theorem mergeValues_of_ne {v w : Value} (h : v.contentKind ≠ w.contentKind) :
    mergeValues v w = w := by
  unfold mergeValues
  split
  · exact absurd rfl h
  · exact absurd rfl h
  · rfl

theorem mergeValues_of_single {v w : Value} (h : w.contentKind = .single) :
    mergeValues v w = w := by
  unfold mergeValues
  split
  · cases h
  · cases h
  · rfl

theorem mergeValues_of_fields {v w : Value} {known more : Fields}
    (hv : v.fields? = some known) (hw : w.fields? = some more) :
    mergeValues v w = .ofFields (known.overlay more) := by
  cases v with
  | record fields =>
      cases w with
      | record fields' =>
          injection hv with hv
          injection hw with hw
          rw [← hv, ← hw]
          rfl
      | null | bool | int | float | text | list => cases hw
  | null | bool | int | float | text | list => cases hv

theorem mergeContent_none (known : Option Value) :
    mergeContent known none = known := by
  cases known <;> rfl

-- ==================================================== runs

/-- The longest run of contents at the end of a list that are of the kind of
the last one. -/
def lastRun (contents : List Value) : List Value :=
  match contents.getLast? with
  | some last => contents.rtakeWhile (·.contentKind = last.contentKind)
  | none => []

theorem lastRun_of_kind {contents : List Value} {kind : ContentKind}
    (h : ∀ c ∈ contents, c.contentKind = kind) :
    lastRun contents = contents := by
  unfold lastRun
  split
  case h_1 last hlast =>
    rw [List.rtakeWhile_eq_self_iff]
    intro c hc
    rw [decide_eq_true_eq, h c hc, h last (List.mem_of_getLast? hlast)]
  case h_2 hnone => rw [List.getLast?_eq_none_iff.mp hnone]

/-- One more content goes on with the run, or begins another one. -/
theorem lastRun_concat (contents : List Value) (last : Value) :
    lastRun (contents ++ [last])
      = (if ∃ c ∈ contents.getLast?, c.contentKind = last.contentKind
          then lastRun contents else []) ++ [last] := by
  unfold lastRun
  rw [List.getLast?_concat]
  show List.rtakeWhile _ (contents ++ [last]) = _
  rw [List.rtakeWhile_concat_pos _ _ _ (by simp)]
  -- before it, the run is the one that was there, or is cut off at once
  cases hlast : contents.getLast? with
  | none =>
      rw [List.getLast?_eq_none_iff] at hlast
      subst hlast
      simp
  | some c =>
      obtain ⟨before, rfl⟩ := List.getLast?_eq_some_iff.mp hlast
      by_cases hkind : c.contentKind = last.contentKind
      · simp [hkind]
      · simp [hkind]

/-- What a run of contents of one kind is joined to. -/
inductive IsMergeOf : List Value → Value → Prop
  /-- Of lists all items are there, in order. -/
  | lists (rows : List (List Value)) :
      IsMergeOf (rows.map .list) (.list rows.flatten)
  /-- Of records each key has the value of the last one that has it. -/
  | records {run : List Value} {v : Value} {fields : Fields}
      (hrun : ∀ c ∈ run, c.contentKind = .record)
      (hv : v.fields? = some fields)
      (hfields : ∀ k, fields.get? k = run.reverse.findSome? (·.under? k))
      (hform : v = .ofFields fields ∨ run = [v]) :
      IsMergeOf run v
  /-- Of anything else the last one stays. -/
  | single {run : List Value} {v : Value}
      (hrun : ∀ c ∈ run, c.contentKind = .single)
      (hlast : run.getLast? = some v) :
      IsMergeOf run v

namespace IsMergeOf

variable {run : List Value} {v : Value}

theorem singleton (v : Value) : IsMergeOf [v] v := by
  cases hkind : v.contentKind with
  | list =>
      obtain ⟨items, rfl⟩ := Value.contentKind_eq_list_iff.mp hkind
      have hone := IsMergeOf.lists [items]
      simpa using hone
  | record =>
      obtain ⟨fields, hfields⟩ := Value.contentKind_eq_record_iff.mp hkind
      refine .records (fun c hc => ?_) hfields (fun k => ?_) (Or.inr rfl)
      · rw [List.mem_singleton.mp hc, hkind]
      · simp [Value.under?, hfields]
  | single =>
      refine .single (fun c hc => ?_) rfl
      rw [List.mem_singleton.mp hc, hkind]

/-- What comes of a run is of the kind of its contents. -/
theorem contentKind_eq (h : IsMergeOf run v) :
    ∀ c ∈ run, c.contentKind = v.contentKind := by
  intro c hc
  cases h with
  | lists rows =>
      obtain ⟨items, -, rfl⟩ := List.mem_map.mp hc
      rfl
  | records hrun hv _ _ =>
      rw [hrun c hc]
      exact (Value.contentKind_eq_record_iff.mpr ⟨_, hv⟩).symm
  | single hrun hlast =>
      rw [hrun c hc, hrun v (List.mem_of_getLast? hlast)]

theorem concat {w : Value} (h : IsMergeOf run v)
    (hkind : v.contentKind = w.contentKind) :
    IsMergeOf (run ++ [w]) (mergeValues v w) := by
  have hall : ∀ c ∈ run ++ [w], c.contentKind = w.contentKind := by
    intro c hc
    rcases List.mem_append.mp hc with hc | hc
    · rw [h.contentKind_eq c hc, hkind]
    · rw [List.mem_singleton.mp hc]
  cases h with
  | lists rows =>
      obtain ⟨items, rfl⟩ := Value.contentKind_eq_list_iff.mp hkind.symm
      have hmore := IsMergeOf.lists (rows ++ [items])
      show IsMergeOf _ (.list (rows.flatten ++ items))
      simpa using hmore
  | @records _ _ fields hrun hv hfields _ =>
      have hrecord : w.contentKind = .record :=
        hkind.symm.trans (Value.contentKind_eq_record_iff.mpr ⟨_, hv⟩)
      obtain ⟨more, hmore⟩ := Value.contentKind_eq_record_iff.mp hrecord
      rw [mergeValues_of_fields hv hmore]
      refine .records (fun c hc => (hall c hc).trans hrecord)
        (Value.fields?_ofFields _) (fun k => ?_) (Or.inl rfl)
      -- from behind, the new record is the first one that is asked
      rw [SortedMap.get?_overlay, hfields, List.reverse_concat,
        List.findSome?_cons]
      simp only [Value.under?, hmore, Option.bind_some]
      cases more.get? k <;> rfl
  | single hrun hlast =>
      have hsingle : w.contentKind = .single :=
        hkind.symm.trans (hrun v (List.mem_of_getLast? hlast))
      rw [mergeValues_of_single hsingle]
      exact .single (fun c hc => (hall c hc).trans hsingle)
        List.getLast?_concat

/-- Nothing else can come of lists. -/
theorem eq_list {rows : List (List Value)} (hne : rows ≠ [])
    (h : IsMergeOf (rows.map .list) v) : v = .list rows.flatten := by
  obtain ⟨items, more, rfl⟩ := List.exists_cons_of_ne_nil hne
  have hlist : Value.list items ∈ (items :: more).map Value.list :=
    List.mem_map_of_mem (List.mem_cons_self ..)
  generalize hrun : (items :: more).map Value.list = run at h hlist
  cases h with
  | lists rows =>
      have hinj : Function.Injective Value.list := fun _ _ => Value.list.inj
      rw [List.map_injective_iff.mpr hinj hrun]
  | records hrecord _ _ _ => cases hrecord _ hlist
  | single hsingle _ => cases hsingle _ hlist

theorem exists_fields (hne : run ≠ [])
    (hrun : ∀ c ∈ run, c.contentKind = .record) (h : IsMergeOf run v) :
    ∃ fields, v.fields? = some fields
      ∧ ∀ k, fields.get? k = run.reverse.findSome? (·.under? k) := by
  obtain ⟨c, hc⟩ := List.exists_mem_of_ne_nil run hne
  have hkind := hrun c hc
  cases h with
  | lists rows =>
      obtain ⟨items, -, rfl⟩ := List.mem_map.mp hc
      cases hkind
  | records _ hv hfields _ => exact ⟨_, hv, hfields⟩
  | single hsingle _ =>
      rw [hsingle c hc] at hkind
      cases hkind

end IsMergeOf

-- ==================================================== all contents

/-- The contents that some nodes have for a section, in the order of the
nodes. -/
def contentsOf (nodes : List SectionData) (name : ParsedName) : List Value :=
  nodes.filterMap (·.section? name)

theorem contentsOf_concat (nodes : List SectionData) (node : SectionData)
    (name : ParsedName) :
    contentsOf (nodes ++ [node]) name
      = contentsOf nodes name ++ (node.section? name).toList := by
  unfold contentsOf
  rw [List.filterMap_append]
  cases hcontent : node.section? name <;> simp [hcontent]

def mergeContents (contents : List Value) : Option Value :=
  contents.foldl (fun known c => mergeContent known (some c)) none

theorem mergeContents_concat (before : List Value) (last : Value) :
    mergeContents (before ++ [last])
      = mergeContent (mergeContents before) (some last) := by
  unfold mergeContents
  rw [List.foldl_append]
  rfl

/-- Contents come to what their last run comes to. -/
theorem mergeContents_spec {contents : List Value} (hne : contents ≠ []) :
    ∃ v, mergeContents contents = some v ∧ IsMergeOf (lastRun contents) v := by
  induction contents using List.reverseRecOn with
  | nil => exact absurd rfl hne
  | append_singleton before last ih =>
      rw [mergeContents_concat, lastRun_concat]
      cases hlast : before.getLast? with
      | none =>
          rw [List.getLast?_eq_none_iff.mp hlast]
          exact ⟨last, rfl, by simpa using IsMergeOf.singleton last⟩
      | some c =>
          have hbefore : before ≠ [] := by
            rintro rfl
            cases hlast
          obtain ⟨v, hv, hmerge⟩ := ih hbefore
          -- the kind of what there is so far is that of the content before
          have hkind : c.contentKind = v.contentKind := by
            apply hmerge.contentKind_eq
            obtain ⟨first, rfl⟩ := List.getLast?_eq_some_iff.mp hlast
            rw [lastRun_concat]
            exact List.mem_append_right _ (List.mem_singleton.mpr rfl)
          rw [hv]
          refine ⟨mergeValues v last, rfl, ?_⟩
          simp only [Option.mem_def, Option.some.injEq, exists_eq_left', hkind]
          split
          case isTrue hsame => exact hmerge.concat hsame
          -- nothing of what there is so far stays
          case isFalse hother =>
            rw [mergeValues_of_ne hother]
            exact IsMergeOf.singleton last

/-- The sections of one more node, joined with those there are. -/
def mergeNode (acc node : SectionData) : SectionData :=
  node.entries.foldl (fun acc (name, content) =>
    acc.insert name (mergeContent (acc.get? name).join content)) acc

theorem mergeSections_concat (nodes : List SectionData) (node : SectionData) :
    mergeSections (nodes ++ [node]) = mergeNode (mergeSections nodes) node := by
  unfold mergeSections
  rw [List.foldl_append]
  rfl

theorem get?_mergeNode (acc node : SectionData) (name : ParsedName) :
    (mergeNode acc node).get? name
      = ((node.get? name).map (mergeContent (acc.section? name))).or
          (acc.get? name) :=
  SortedMap.get?_foldl_combine (fun known => mergeContent known.join)
    node.keys_nodup

/-- A node's content is joined with what there is, if it has one. -/
theorem section?_mergeNode (acc node : SectionData) (name : ParsedName) :
    (mergeNode acc node).section? name
      = mergeContent (acc.section? name) (node.section? name) := by
  show ((mergeNode acc node).get? name).join
    = mergeContent (acc.section? name) (node.get? name).join
  rw [get?_mergeNode]
  cases node.get? name with
  | none => exact (mergeContent_none _).symm
  | some content => rfl

/-- The content of a merged section is what the contents of the nodes come
to. -/
theorem section?_mergeSections (nodes : List SectionData) (name : ParsedName) :
    (mergeSections nodes).section? name
      = mergeContents (contentsOf nodes name) := by
  induction nodes using List.reverseRecOn with
  | nil => rfl
  | append_singleton nodes node ih =>
      rw [mergeSections_concat, section?_mergeNode, ih, contentsOf_concat]
      cases node.section? name with
      | none => rw [mergeContent_none, Option.toList_none, List.append_nil]
      | some c => exact (mergeContents_concat _ c).symm

theorem mem_keys_mergeSections {nodes : List SectionData} {name : ParsedName} :
    name ∈ (mergeSections nodes).keys ↔ ∃ node ∈ nodes, name ∈ node.keys := by
  induction nodes using List.reverseRecOn with
  | nil => exact ⟨fun h => (by cases h), fun ⟨_, h, _⟩ => (by cases h)⟩
  | append_singleton nodes node ih =>
      have hstep : name ∈ (mergeNode (mergeSections nodes) node).keys
          ↔ name ∈ (mergeSections nodes).keys ∨ name ∈ node.keys := by
        simp only [SortedMap.mem_keys, get?_mergeNode]
        cases node.get? name <;> simp
      rw [mergeSections_concat, hstep, ih]
      simp [or_and_right, exists_or]

-- ==================================================== the main statement

/-- Merging knows the sections that the nodes know. One for which no node has a
content has none, and any other one has what the last run of contents comes
to. So nothing of lists is lost, and of records every key has its last value,
where there is nothing else among the contents. -/
theorem mergeSections_exact (nodes : List SectionData) (name : ParsedName) :
    let merged := mergeSections nodes
    let contents := contentsOf nodes name
    (name ∈ merged.keys ↔ ∃ node ∈ nodes, name ∈ node.keys)
      ∧ (merged.get? name = some none
        ↔ name ∈ merged.keys ∧ ∀ node ∈ nodes, node.section? name = none)
      ∧ (contents ≠ [] → ∃ v, merged.get? name = some (some v)
        ∧ IsMergeOf (lastRun contents) v)
      ∧ (∀ rows : List (List Value), rows ≠ [] → contents = rows.map .list →
        merged.get? name = some (some (.list rows.flatten)))
      ∧ (contents ≠ [] → (∀ c ∈ contents, c.isRecord = true) →
        ∃ v fields, merged.get? name = some (some v)
          ∧ v.fields? = some fields
          ∧ ∀ k, fields.get? k
            = contents.reverse.findSome? (·.under? k)) := by
  intro merged contents
  have hcontent : (merged.get? name).join = mergeContents contents := by
    rw [← section?_mergeSections]
    rfl
  have hspec : contents ≠ [] → ∃ v, merged.get? name = some (some v)
      ∧ IsMergeOf (lastRun contents) v := by
    intro hne
    obtain ⟨v, hv, hmerge⟩ := mergeContents_spec hne
    rw [hv, Option.join_eq_some_iff] at hcontent
    exact ⟨v, hcontent, hmerge⟩
  refine ⟨mem_keys_mergeSections, ?_, hspec, ?_, ?_⟩
  · have hnil : contents = [] ↔ ∀ node ∈ nodes, node.section? name = none :=
      List.filterMap_eq_nil_iff
    rw [SortedMap.mem_keys, ← hnil]
    constructor
    · intro hnone
      refine ⟨⟨none, hnone⟩, ?_⟩
      by_contra hne
      obtain ⟨v, hv, -⟩ := hspec hne
      rw [hnone] at hv
      cases hv
    · rintro ⟨⟨content, hget⟩, hempty⟩
      rw [hget, hempty] at hcontent
      rw [hget]
      exact congrArg some hcontent
  · intro rows hne hrows
    obtain ⟨v, hv, hmerge⟩ := hspec (by simpa [hrows] using hne)
    have hkind : ∀ c ∈ contents, c.contentKind = .list := by
      simp [hrows, Value.contentKind]
    rw [lastRun_of_kind hkind, hrows] at hmerge
    rw [hv, hmerge.eq_list hne]
  · intro hne hrecords
    have hkind : ∀ c ∈ contents, c.contentKind = .record := by
      intro c hc
      rw [Value.contentKind_eq_record_iff, ← Value.isRecord_iff]
      exact hrecords c hc
    obtain ⟨v, hv, hmerge⟩ := hspec hne
    rw [lastRun_of_kind hkind] at hmerge
    obtain ⟨fields, hfields, hget⟩ := hmerge.exists_fields hne hkind
    exact ⟨v, fields, hv, hfields, hget⟩

/-- Nodes of which one has a record where the others have lists, and one has
nothing. -/
def unevenNodes : List SectionData :=
  [.ofList [("disk", some (.list [.int 1])), ("up", none),
      ("mem", some (.record [("free", .int 1), ("used", .int 1)]))],
    .ofList [("disk", some (.record [("free", .int 9)])), ("up", none)],
    .ofList [("disk", some (.list [.int 2]))],
    .ofList [("disk", none), ("mem", some (.record [("used", .int 2)]))],
    .ofList [("disk", some (.list [.int 3]))]]

/-- The record takes the place of the first list and is replaced by the next
one; of the fields the later ones stay. -/
theorem mergeSections_exact_uneven :
    let merged := mergeSections unevenNodes
    lastRun (contentsOf unevenNodes "disk")
        = [.list [.int 2], .list [.int 3]]
      ∧ merged.get? "disk" = some (some (.list [.int 2, .int 3]))
      ∧ merged.get? "up" = some none
      ∧ (∃ v fields, merged.get? "mem" = some (some v)
        ∧ v.fields? = some fields ∧ fields.get? "free" = some (.int 1)
        ∧ fields.get? "used" = some (.int 2)) := by
  intro merged
  have hrun : lastRun (contentsOf unevenNodes "disk")
      = [[.int 2], [.int 3]].map Value.list := by rfl
  obtain ⟨-, -, hdisk, -, -⟩ := mergeSections_exact unevenNodes "disk"
  obtain ⟨hknown, hnone, -, -, -⟩ := mergeSections_exact unevenNodes "up"
  obtain ⟨-, -, -, -, hmem⟩ := mergeSections_exact unevenNodes "mem"
  refine ⟨hrun, ?_, ?_, ?_⟩
  · obtain ⟨v, hv, hmerge⟩ := hdisk (List.cons_ne_nil _ _)
    rw [hrun] at hmerge
    rw [hv, hmerge.eq_list (List.cons_ne_nil _ _)]
    rfl
  · refine hnone.mpr ⟨hknown.mpr ⟨_, List.mem_cons_self .., ?_⟩, ?_⟩
    · decide +kernel
    · simp only [unevenNodes, List.forall_mem_cons]
      exact ⟨rfl, rfl, rfl, rfl, rfl, List.forall_mem_nil _⟩
  · have hrecords :
        ∀ c ∈ contentsOf unevenNodes "mem", c.isRecord = true := by
      show ∀ c ∈ [Value.record _, Value.record _], c.isRecord = true
      simp [Value.isRecord]
    obtain ⟨v, fields, hv, hfields, hget⟩ :=
      hmem (List.cons_ne_nil _ _) hrecords
    exact ⟨v, fields, hv, hfields, hget "free", hget "used"⟩

end HostWatch
