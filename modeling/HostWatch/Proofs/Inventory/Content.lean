/-
Which inventory items are taken together, and what their tree holds.

Items are refused where two of them have the same path and differ in shape,
and for no other reason: what a walk over the items remembers of a path
comes from an item before (`Growth.LearntFrom`), so whatever a refusal says,
two items make it true (`arisesFrom_of_error`). That is a matter of which
items there are, not of their order; also where the first item of a path adds
nothing to the tree and counts only for what the later ones have to match.

What the tree holds at a path is read off the items there. A node is found
by its name, so this is said of the paths that their names tell apart from
the paths of all items (`ToldApart`). For these the walk seen from one name
(`get?_ofItems`) is the walk over the items at the path, and since the items
are taken together they are all attributes, or all rows of one table.
-/
import HostWatch.Proofs.Inventory.Tree

namespace HostWatch

-- ==================================================== items

namespace InventoryItem

/-- Items have the same shape exactly if they are of one kind and, as rows,
have the same key columns. -/
theorem shape_eq_iff {a b : InventoryItem} :
    a.shape = b.shape ↔ a.kind = b.kind
      ∧ ∀ columns ∈ a.keyColumns, ∀ columns' ∈ b.keyColumns,
        ∀ name, name ∈ columns.keys ↔ name ∈ columns'.keys := by
  unfold shape kind
  cases a.keyColumns <;> cases b.keyColumns <;> simp [SortedMap.keys_eq_iff]

theorem kind_of_shape_none {item : InventoryItem} (h : item.shape = none) :
    item.kind = .attributes := by
  unfold shape at h
  unfold kind
  rw [Option.map_eq_none_iff.mp h]
  rfl

/-- An item with key columns is a row of a table. -/
theorem row_of_shape_some {item : InventoryItem} {names : List String}
    (h : item.shape = some names) : item.kind = .tableRow
      ∧ ∃ columns : Fields, item.row? = some (columns.overlay item.status)
        ∧ columns.keys = names := by
  obtain ⟨columns, hcolumns, hnames⟩ := Option.map_eq_some_iff.mp h
  unfold kind row?
  rw [hcolumns]
  exact ⟨rfl, columns, rfl, hnames⟩

end InventoryItem

-- ==================================================== contradictions

namespace TreeConflict

variable {items : List InventoryItem} {conflict : TreeConflict}

/-- A contradiction that two of some items make: they have its path, and
differ in what it names. -/
def ArisesFrom (items : List InventoryItem) : TreeConflict → Prop
  | .kind path new known =>
      known ≠ new ∧ ∃ a ∈ items, ∃ b ∈ items, a.path = path ∧ b.path = path
        ∧ a.kind = known ∧ b.kind = new
  | .keyColumns path known new =>
      known ≠ new ∧ ∃ a ∈ items, ∃ b ∈ items, a.path = path ∧ b.path = path
        ∧ a.shape = some known ∧ b.shape = some new

/-- Where a contradiction arises, two items with the same path differ in
shape. -/
theorem ArisesFrom.shape_ne (h : conflict.ArisesFrom items) :
    ∃ a ∈ items, ∃ b ∈ items, a.path = b.path ∧ a.shape ≠ b.shape := by
  cases conflict with
  | kind path new known =>
      obtain ⟨hne, a, ha, b, hb, hapath, hbpath, rfl, rfl⟩ := h
      refine ⟨a, ha, b, hb, hapath.trans hbpath.symm, ?_⟩
      intro hshape
      exact hne (InventoryItem.shape_eq_iff.mp hshape).1
  | keyColumns path known new =>
      obtain ⟨hne, a, ha, b, hb, hapath, hbpath, hashape, hbshape⟩ := h
      refine ⟨a, ha, b, hb, hapath.trans hbpath.symm, ?_⟩
      rw [hashape, hbshape]
      exact fun hnames => hne (Option.some.inj hnames)

/-- A contradiction stays one when there are more items. -/
theorem ArisesFrom.mono {more : List InventoryItem} (hsub : items ⊆ more)
    (h : conflict.ArisesFrom items) : conflict.ArisesFrom more := by
  cases conflict with
  | kind path new known =>
      obtain ⟨hne, a, ha, b, hb, hrest⟩ := h
      exact ⟨hne, a, hsub ha, b, hsub hb, hrest⟩
  | keyColumns path known new =>
      obtain ⟨hne, a, ha, b, hb, hrest⟩ := h
      exact ⟨hne, a, hsub ha, b, hsub hb, hrest⟩

end TreeConflict

-- ==================================================== one node

namespace StatusNode

variable {sources : List InventoryItem}

/-- A node with the attributes of some items, of which the last one that has
an attribute wins, and with nothing else. -/
structure HoldsAttributes (node : StatusNode) (sources : List InventoryItem) :
    Prop where
  attributes : ∀ name, node.attributes.get? name
    = sources.reverse.findSome? fun item => item.status.get? name
  keyColumns : node.keyColumns = []
  rows : node.rows = []

/-- A node with the rows that some items are, one for each of them and in
their order, which all have the key columns of the node, and with nothing
else. -/
structure HoldsTable (node : StatusNode) (sources : List InventoryItem) :
    Prop where
  attributes : node.attributes.isEmpty = true
  keyColumns : ∀ item ∈ sources, item.shape = some node.keyColumns
  sorted : node.keyColumns.Pairwise fun a b => compare a b = .lt
  rows : node.rows.map some = sources.map fun item => item.row?

/-- Of the attributes of items, the last one of a name is found. -/
theorem get?_attributes_foldl_extend (items : List InventoryItem)
    (hitems : ∀ item ∈ items, item.shape = none) (name : String) :
    ∀ node : StatusNode, (items.foldl extend node).attributes.get? name
      = (items.reverse.findSome? fun item => item.status.get? name).or
        (node.attributes.get? name) := by
  induction items with
  | nil => intro node; rfl
  | cons item rest ih =>
      intro node
      have hrest : ∀ other ∈ rest, other.shape = none :=
        fun other hother => hitems other (List.mem_cons_of_mem _ hother)
      have hextend : node.extend item = { node with
          attributes := node.attributes.overlay item.status } := by
        have hnone := hitems item (List.mem_cons_self ..)
        unfold extend
        rw [Option.map_eq_none_iff.mp hnone]
      rw [List.foldl_cons, ih hrest, hextend, SortedMap.get?_overlay,
        List.reverse_cons, List.findSome?_append, Option.or_assoc]
      simp

theorem holdsAttributes_of_shape
    (hshape : ∀ item ∈ sources, item.shape = none) :
    HoldsAttributes (sources.foldl extend {}) sources := by
  refine ⟨?_, ?_, ?_⟩
  · intro name
    rw [get?_attributes_foldl_extend sources hshape name]
    exact Option.or_none
  · rw [keyColumns_foldl_extend, List.filterMap_eq_nil_iff.mpr hshape]
    rfl
  · rw [rows_foldl_extend, List.nil_append, List.filterMap_eq_nil_iff]
    exact fun item hitem => InventoryItem.row?_eq_none_iff.mpr
      (hshape item hitem)

/-- Where every item is a row, there is one row for each. -/
private theorem map_some_filterMap_row? (items : List InventoryItem)
    (hitems : ∀ item ∈ items, ∃ row, item.row? = some row) :
    (items.filterMap (·.row?)).map some = items.map fun item => item.row? := by
  induction items with
  | nil => rfl
  | cons item rest ih =>
      obtain ⟨row, hrow⟩ := hitems item (List.mem_cons_self ..)
      rw [List.filterMap_cons_some hrow, List.map_cons, List.map_cons, hrow,
        ih fun other hother => hitems other (List.mem_cons_of_mem _ hother)]

/-- Where every item has the same key columns, the node has them. -/
private theorem keyColumns_of_shape {names : List String}
    (hsome : sources ≠ [])
    (hshape : ∀ item ∈ sources, item.shape = some names) :
    (sources.foldl extend {}).keyColumns = names := by
  rw [keyColumns_foldl_extend]
  have hnames : ∀ other ∈ sources.filterMap (·.shape), other = names := by
    intro other hother
    obtain ⟨item, hitem, hother⟩ := List.mem_filterMap.mp hother
    rw [hshape item hitem] at hother
    exact (Option.some.inj hother).symm
  cases hlast : (sources.filterMap (·.shape)).getLast? with
  | some last => exact hnames last (List.mem_of_getLast? hlast)
  | none =>
      rw [List.getLast?_eq_none_iff, List.filterMap_eq_nil_iff] at hlast
      obtain ⟨first, hfirst⟩ := List.exists_mem_of_ne_nil _ hsome
      have hnone := hlast first hfirst
      rw [hshape first hfirst] at hnone
      cases hnone

theorem holdsTable_of_shape {names : List String} (hsome : sources ≠ [])
    (hshape : ∀ item ∈ sources, item.shape = some names) :
    HoldsTable (sources.foldl extend {}) sources := by
  have hkeyColumns := keyColumns_of_shape hsome hshape
  refine ⟨?_, ?_, ?_, ?_⟩
  · rw [isEmpty_attributes_foldl_extend, Bool.and_eq_true, List.all_eq_true]
    refine ⟨rfl, ?_⟩
    intro item hitem
    rw [hshape item hitem]
    rfl
  · rw [hkeyColumns]
    exact hshape
  · obtain ⟨first, hfirst⟩ := List.exists_mem_of_ne_nil _ hsome
    obtain ⟨-, columns, -, hcolumns⟩ :=
      InventoryItem.row_of_shape_some (hshape first hfirst)
    rw [hkeyColumns, ← hcolumns]
    exact columns.keys_sorted
  · rw [rows_foldl_extend, List.nil_append]
    refine map_some_filterMap_row? sources fun item hitem => ?_
    obtain ⟨-, columns, hrow, -⟩ :=
      InventoryItem.row_of_shape_some (hshape item hitem)
    exact ⟨_, hrow⟩

end StatusNode

namespace StatusTree

variable {items : List InventoryItem} {tree : StatusTree}
    {conflict : TreeConflict}

-- ==================================================== refusals

namespace Growth

variable {g after : Growth} {item : InventoryItem}

/-- What is remembered of paths comes from some items. -/
structure LearntFrom (g : Growth) (items : List InventoryItem) : Prop where
  kinds : ∀ path kind, g.kinds.lookup path = some kind →
    ∃ item ∈ items, item.path = path ∧ item.kind = kind
  tableKeys : ∀ path names, g.tableKeys.lookup path = some names →
    ∃ item ∈ items, item.path = path ∧ item.shape = some names

theorem learntFrom_nil : LearntFrom {} [] := by
  constructor
  · intro path kind h
    cases h
  · intro path names h
    cases h

private theorem eq_some_of_getD_ne {α : Type} {known? : Option α} {new : α}
    (h : known?.getD new ≠ new) : known? = some (known?.getD new) := by
  cases known? with
  | none => exact absurd rfl h
  | some known => rfl

/-- An item is refused for one of two reasons, each with what is remembered
of its path. -/
theorem add_error (h : g.add item = .error conflict) :
    (∃ known, known ≠ item.kind ∧ g.kinds.lookup item.path = some known
        ∧ conflict = .kind item.path item.kind known)
      ∨ ∃ names known, known ≠ names ∧ item.shape = some names
        ∧ g.tableKeys.lookup item.path = some known
        ∧ conflict = .keyColumns item.path known names := by
  unfold add at h
  simp only at h
  split at h
  case isTrue hkind =>
    cases h
    exact .inl ⟨_, hkind, eq_some_of_getD_ne hkind, rfl⟩
  case isFalse =>
    split at h
    case h_1 => cases h
    case h_2 keyColumns hitem =>
      unfold addRow at h
      simp only at h
      split at h
      case isTrue hkeys =>
        cases h
        refine .inr ⟨_, _, hkeys, ?_, eq_some_of_getD_ne hkeys, rfl⟩
        unfold InventoryItem.shape
        rw [hitem]
        rfl
      case isFalse => split at h <;> cases h

/-- A refusal says what is true of the items before and the new one. -/
theorem LearntFrom.arisesFrom (hlearnt : g.LearntFrom items)
    (h : g.add item = .error conflict) :
    conflict.ArisesFrom (item :: items) := by
  obtain ⟨known, hne, hlookup, rfl⟩ | ⟨names, known, hne, hshape, hlookup,
    rfl⟩ := add_error h
  · obtain ⟨earlier, hmem, hpath, hkind⟩ := hlearnt.kinds _ _ hlookup
    exact ⟨hne, earlier, List.mem_cons_of_mem _ hmem, item,
      List.mem_cons_self .., hpath, rfl, hkind, rfl⟩
  · obtain ⟨earlier, hmem, hpath, hnames⟩ := hlearnt.tableKeys _ _ hlookup
    exact ⟨hne, earlier, List.mem_cons_of_mem _ hmem, item,
      List.mem_cons_self .., hpath, rfl, hnames, hshape⟩

/-- What is found behind a new entry is the entry, or was found before. -/
private theorem of_lookup_cons {β : Type} {key key' : List String}
    {b new : β} {entries : List (List String × β)}
    (h : ((key', new) :: entries).lookup key = some b) :
    key' = key ∧ new = b ∨ entries.lookup key = some b := by
  rw [List.lookup_cons] at h
  by_cases hkey : key = key'
  · rw [beq_iff_eq.mpr hkey] at h
    exact .inl ⟨hkey.symm, Option.some.inj h⟩
  · rw [beq_eq_false_iff_ne.mpr hkey] at h
    exact .inr h

/-- What is remembered after an item comes from it or from those before. -/
theorem LearntFrom.of_add (hlearnt : g.LearntFrom items)
    (h : g.add item = .ok after) : after.LearntFrom (item :: items) := by
  obtain ⟨-, -, rfl⟩ := add_eq_ok_iff.mp h
  have hkeys : ∀ path names, g.tableKeys.lookup path = some names →
      ∃ other ∈ item :: items, other.path = path
        ∧ other.shape = some names := by
    intro path names hlookup
    obtain ⟨earlier, hmem, hearlier⟩ := hlearnt.tableKeys path names hlookup
    exact ⟨earlier, List.mem_cons_of_mem _ hmem, hearlier⟩
  constructor
  · intro path kind hlookup
    obtain ⟨hpath, hkind⟩ | hbefore := of_lookup_cons hlookup
    · exact ⟨item, List.mem_cons_self .., hpath, hkind⟩
    · obtain ⟨earlier, hmem, hearlier⟩ := hlearnt.kinds path kind hbefore
      exact ⟨earlier, List.mem_cons_of_mem _ hmem, hearlier⟩
  · intro path names hlookup
    unfold learnKeys at hlookup
    cases hshape : item.shape with
    | none =>
        simp only [hshape] at hlookup
        exact hkeys path names hlookup
    | some own =>
        simp only [hshape] at hlookup
        obtain ⟨hpath, hnames⟩ | hbefore := of_lookup_cons hlookup
        · exact ⟨item, List.mem_cons_self .., hpath, hnames ▸ hshape⟩
        · exact hkeys path names hbefore

/-- A walk that is refused says what is true of its items and of those that
it remembers. -/
theorem arisesFrom_of_foldlM {items : List InventoryItem} :
    ∀ {g : Growth} {seen : List InventoryItem}, g.LearntFrom seen →
      items.foldlM add g = .error conflict →
      conflict.ArisesFrom (items ++ seen) := by
  induction items with
  | nil =>
      intro g seen _ h
      cases h
  | cons item rest ih =>
      intro g seen hlearnt h
      rw [List.foldlM_cons] at h
      cases hadd : g.add item with
      | error first =>
          rw [hadd] at h
          cases h
          refine (hlearnt.arisesFrom hadd).mono ?_
          exact List.cons_subset_cons _ (List.subset_append_right ..)
      | ok next =>
          rw [hadd] at h
          refine (ih (hlearnt.of_add hadd) h).mono ?_
          intro other hother
          simp only [List.mem_cons, List.mem_append] at hother ⊢
          tauto

end Growth

/-- Items with the same path are of one kind and, as rows, have the same key
columns. -/
def PathsAgree (items : List InventoryItem) : Prop :=
  ∀ a ∈ items, ∀ b ∈ items, a.path = b.path → a.kind = b.kind
    ∧ ∀ columns ∈ a.keyColumns, ∀ columns' ∈ b.keyColumns,
      ∀ name, name ∈ columns.keys ↔ name ∈ columns'.keys

/-- Whatever is said of items that are refused, two of them make it true. -/
theorem arisesFrom_of_error (h : ofItems items = .error conflict) :
    conflict.ArisesFrom items := by
  unfold ofItems at h
  cases hwalk : items.foldlM Growth.add {} with
  | error first =>
      rw [hwalk] at h
      cases h
      have harises := Growth.arisesFrom_of_foldlM Growth.learntFrom_nil hwalk
      rwa [List.append_nil] at harises
  | ok growth =>
      rw [hwalk] at h
      cases h

/-- Items are taken exactly if those with the same path agree. -/
theorem accepts_iff :
    (∃ tree, ofItems items = .ok tree) ↔ PathsAgree items := by
  constructor
  · rintro ⟨tree, h⟩ a ha b hb hpath
    exact InventoryItem.shape_eq_iff.mp (shape_eq_of_path_eq h ha hb hpath)
  · intro hagree
    cases h : ofItems items with
    | ok tree => exact ⟨tree, rfl⟩
    | error conflict =>
        obtain ⟨a, ha, b, hb, hpath, hshape⟩ :=
          (arisesFrom_of_error h).shape_ne
        have hsame := InventoryItem.shape_eq_iff.mpr (hagree a ha b hb hpath)
        exact absurd hsame hshape

/-- Whether items agree does not depend on their order. -/
theorem pathsAgree_perm {items' : List InventoryItem}
    (hperm : items.Perm items') : PathsAgree items ↔ PathsAgree items' := by
  unfold PathsAgree
  simp only [hperm.mem_iff]

-- ==================================================== one path

/-- The items with status data at a path. -/
def sourcesAt (items : List InventoryItem) (path : List String) :
    List InventoryItem :=
  items.filter fun item => !item.status.isEmpty && item.path == path

theorem mem_sourcesAt {path : List String} {item : InventoryItem} :
    item ∈ sourcesAt items path ↔ item ∈ items
      ∧ item.status.isEmpty = false ∧ item.path = path := by
  unfold sourcesAt
  rw [List.mem_filter, Bool.and_eq_true, Bool.not_eq_true', beq_iff_eq]

/-- The name of a path is not that of another path that an item has. Where
items with distinct paths have distinct names, every path of an item is told
apart. -/
def ToldApart (items : List InventoryItem) (path : List String) : Prop :=
  ∀ item ∈ items, nodeName item.path = nodeName path → item.path = path

instance (items : List InventoryItem) (path : List String) :
    Decidable (ToldApart items path) :=
  inferInstanceAs (Decidable (∀ item ∈ items, _))

theorem contributors_eq {path : List String} (hapart : ToldApart items path) :
    contributors items (nodeName path) = sourcesAt items path := by
  unfold contributors sourcesAt
  refine List.filter_congr fun item hitem => ?_
  have hname : (nodeName item.path == nodeName path) = (item.path == path) := by
    rw [Bool.eq_iff_iff, beq_iff_eq, beq_iff_eq]
    exact ⟨hapart item hitem, fun hpath => by rw [hpath]⟩
  rw [hname]

/-- A node has a name exactly if an item with status data has it. -/
theorem isSome_get?_ofItems (h : ofItems items = .ok tree) (name : String) :
    (tree.nodes.get? name).isSome ↔ ∃ item ∈ items,
      nodeName item.path = name ∧ item.status.isEmpty = false := by
  rw [get?_ofItems h]
  constructor
  · intro hsome
    split at hsome
    case isTrue => cases hsome
    case isFalse hne =>
      obtain ⟨item, hitem⟩ := List.exists_mem_of_ne_nil _ hne
      obtain ⟨hmem, hstatus, hname⟩ := mem_contributors.mp hitem
      exact ⟨item, hmem, hname, hstatus⟩
  · rintro ⟨item, hmem, hname, hstatus⟩
    have hitem := mem_contributors.mpr ⟨hmem, hstatus, hname⟩
    rw [if_neg (List.ne_nil_of_mem hitem)]
    rfl

/-- There is a node at a path that is told apart exactly if an item there has
status data. -/
theorem isSome_node?_ofItems (h : ofItems items = .ok tree)
    {path : List String} (hapart : ToldApart items path) :
    (tree.node? path).isSome ↔ ∃ item ∈ items,
      item.path = path ∧ item.status.isEmpty = false := by
  unfold node?
  rw [isSome_get?_ofItems h]
  constructor
  · rintro ⟨item, hmem, hname, hstatus⟩
    exact ⟨item, hmem, hapart item hmem hname, hstatus⟩
  · rintro ⟨item, hmem, rfl, hstatus⟩
    exact ⟨item, hmem, rfl, hstatus⟩

/-- What the node at a path holds, if the path is told apart. -/
theorem holds_of_node?_ofItems (h : ofItems items = .ok tree)
    {path : List String} (hapart : ToldApart items path) {node : StatusNode}
    (hnode : tree.node? path = some node) :
    (∀ item ∈ items, item.path = path → item.kind = .attributes)
        ∧ node.HoldsAttributes (sourcesAt items path)
      ∨ (∀ item ∈ items, item.path = path → item.kind = .tableRow)
        ∧ node.HoldsTable (sourcesAt items path) := by
  unfold node? at hnode
  rw [get?_ofItems h, contributors_eq hapart] at hnode
  split at hnode
  case isTrue => cases hnode
  case isFalse hsome =>
    cases hnode
    -- the other items at the path have the shape of any one of them
    obtain ⟨first, hfirst⟩ := List.exists_mem_of_ne_nil _ hsome
    obtain ⟨hmem, -, hpath⟩ := mem_sourcesAt.mp hfirst
    have hshape : ∀ item ∈ items, item.path = path →
        item.shape = first.shape := fun item hitem hitempath =>
      shape_eq_of_path_eq h hitem hmem (hitempath.trans hpath.symm)
    have hsources : ∀ item ∈ sourcesAt items path,
        item.shape = first.shape := by
      intro item hitem
      obtain ⟨hitem, -, hitempath⟩ := mem_sourcesAt.mp hitem
      exact hshape item hitem hitempath
    cases hfirstShape : first.shape with
    | none =>
        rw [hfirstShape] at hshape hsources
        refine .inl ⟨?_, StatusNode.holdsAttributes_of_shape hsources⟩
        intro item hitem hitempath
        exact InventoryItem.kind_of_shape_none (hshape item hitem hitempath)
    | some names =>
        rw [hfirstShape] at hshape hsources
        refine .inr ⟨?_, StatusNode.holdsTable_of_shape hsome hsources⟩
        intro item hitem hitempath
        exact (InventoryItem.row_of_shape_some
          (hshape item hitem hitempath)).1

-- ==================================================== the main statement

/-- Which items are taken together, and what their tree holds. They are taken
exactly if those with the same path agree in kind and in key columns, in
whatever order they come; if not, the refusal names a path at which two of
them differ. If they are taken, there are nodes for the names of the items
with status data and no others. At a path that is told apart there is a node
exactly if an item there has status data; and the node holds either the
attributes of all items there, of which the last one of a name wins, or a
table with one row for each item there with status data, in their order, and
with their key columns in increasing order. -/
theorem ofItems_exact (items : List InventoryItem) :
    ((∃ tree, ofItems items = .ok tree) ↔ PathsAgree items)
      ∧ (¬ PathsAgree items → ∃ conflict,
        ofItems items = .error conflict ∧ conflict.ArisesFrom items)
      ∧ (∀ items', items.Perm items' →
        ((∃ tree, ofItems items = .ok tree)
          ↔ ∃ tree, ofItems items' = .ok tree))
      ∧ ∀ tree, ofItems items = .ok tree →
        (∀ name, (tree.nodes.get? name).isSome ↔ ∃ item ∈ items,
          nodeName item.path = name ∧ item.status.isEmpty = false)
        ∧ ∀ path, ToldApart items path →
          ((tree.node? path).isSome ↔ ∃ item ∈ items,
            item.path = path ∧ item.status.isEmpty = false)
          ∧ ∀ node, tree.node? path = some node →
            (∀ item ∈ items, item.path = path → item.kind = .attributes)
                ∧ node.HoldsAttributes (sourcesAt items path)
              ∨ (∀ item ∈ items, item.path = path → item.kind = .tableRow)
                ∧ node.HoldsTable (sourcesAt items path) := by
  refine ⟨accepts_iff, ?_, ?_, ?_⟩
  · intro hdiffer
    cases h : ofItems items with
    | ok tree => exact absurd (accepts_iff.mp ⟨tree, h⟩) hdiffer
    | error conflict => exact ⟨conflict, rfl, arisesFrom_of_error h⟩
  · intro items' hperm
    rw [accepts_iff, accepts_iff, pathsAgree_perm hperm]
  · intro tree h
    refine ⟨isSome_get?_ofItems h, ?_⟩
    intro path hapart
    exact ⟨isSome_node?_ofItems h hapart,
      fun node => holds_of_node?_ofItems h hapart⟩

/-- What two plugins find on a host: attributes of which one is found twice,
and a table with a row that has no status data. -/
def findings : List InventoryItem :=
  [ .attributes ["hardware", "cpu"]
      (.ofList [("cores", .int 4), ("temp", .int 41)]),
    .tableRow ["hardware", "cards"] (.ofList [("slot", .int 1)]) ∅,
    .tableRow ["hardware", "cards"]
      (.ofList [("slot", .int 2)]) (.ofList [("speed", .int 40)]),
    .attributes ["hardware", "cpu"] (.ofList [("temp", .int 43)]) ]

theorem ofItems_exact_findings :
    ∃ tree, ofItems findings = .ok tree
      ∧ ToldApart findings ["hardware", "cards"]
      ∧ ∃ node, tree.node? ["hardware", "cards"] = some node
        ∧ node.HoldsTable (sourcesAt findings ["hardware", "cards"])
        ∧ node.rows.length = 1 := by
  have hapart : ToldApart findings ["hardware", "cards"] := by decide +kernel
  obtain ⟨tree, htree⟩ : ∃ tree, ofItems findings = .ok tree := ⟨_, rfl⟩
  obtain ⟨hnode, hholds⟩ :=
    ((ofItems_exact findings).2.2.2 tree htree).2 _ hapart
  obtain ⟨node, hnode⟩ := Option.isSome_iff_exists.mp
    (hnode.mpr ⟨_, .tail _ (.tail _ (.head _)), rfl, rfl⟩)
  obtain ⟨hkind, -⟩ | ⟨-, htable⟩ := hholds node hnode
  · have hrow := hkind _ (.tail _ (.head _)) rfl
    cases hrow
  · refine ⟨tree, htree, hapart, node, hnode, htable, ?_⟩
    rw [← List.length_map (f := some), htable.rows, List.length_map]
    decide +kernel

end StatusTree

end HostWatch
