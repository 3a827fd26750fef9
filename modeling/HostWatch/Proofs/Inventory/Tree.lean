/-
What the nodes of a status tree are made of.

`Growth.add_eq_ok_iff` says which items are taken and all that a taken item
changes. Two lines of argument start from it. What is remembered of a path
enters into refusals only, so the tree of items that are all taken is what
one gets by adding their status data one after the other, and seen from one
name a node is the items for this name in their order (`get?_ofItems`). And
what is remembered of a path stays (`Growth.Knows`), so items that are taken
together and have the same path have the same shape (`shape_eq_of_path_eq`).

A node is meant to hold attributes or the rows of one table. Contradictions
are looked for among items with the same path, while a node is found by its
name, in which the parts of the path are joined by dots. `one_kind_iff` says
how far that goes: the nodes are what they are meant to be exactly if items
with different paths of the same name agree. There are no such paths where
parts have no dots in them (`nodeName_injective`); `dotted_part_mixes_kinds`
is what happens where one has.
-/
import HostWatch.Inventory.Tree
import HostWatch.Proofs.Fallible
import HostWatch.Proofs.SortedMap

namespace HostWatch

namespace InventoryItem

/-- The names of the key columns of a row; attributes have none. -/
def shape (item : InventoryItem) : Option (List String) :=
  item.keyColumns.map (·.keys)

/-- The row of a table that an item is. -/
def row? (item : InventoryItem) : Option Fields :=
  item.keyColumns.map fun keyColumns => keyColumns.overlay item.status

theorem row?_eq_none_iff {item : InventoryItem} :
    item.row? = none ↔ item.shape = none := by
  unfold row? shape
  rw [Option.map_eq_none_iff, Option.map_eq_none_iff]

theorem kind_eq_iff {a b : InventoryItem} :
    a.kind = b.kind ↔ (a.shape = none ↔ b.shape = none) := by
  unfold kind shape
  cases a.keyColumns <;> cases b.keyColumns <;> simp

end InventoryItem

-- ==================================================== one node

namespace StatusNode

/-- A node with the status data of one more item. -/
def extend (node : StatusNode) (item : InventoryItem) : StatusNode :=
  match item.keyColumns with
  | none => { node with attributes := node.attributes.overlay item.status }
  | some keyColumns =>
    { node with
      keyColumns := keyColumns.keys
      rows := node.rows ++ [keyColumns.overlay item.status] }

/-- The rows of a node are the items that are rows, in their order. -/
theorem rows_foldl_extend (items : List InventoryItem) :
    ∀ node : StatusNode, (items.foldl extend node).rows
      = node.rows ++ items.filterMap (·.row?) := by
  induction items with
  | nil => intro node; exact (List.append_nil _).symm
  | cons item rest ih =>
      intro node
      rw [List.foldl_cons, ih]
      unfold extend InventoryItem.row?
      cases hkeys : item.keyColumns with
      | none => rw [List.filterMap_cons_none (by rw [hkeys]; rfl)]
      | some keyColumns =>
          rw [List.filterMap_cons_some (by rw [hkeys]; rfl)]
          exact List.append_assoc ..

/-- The key columns of a node are those of the last row. -/
theorem keyColumns_foldl_extend (items : List InventoryItem) :
    ∀ node : StatusNode, (items.foldl extend node).keyColumns
      = (items.filterMap (·.shape)).getLast?.getD node.keyColumns := by
  induction items with
  | nil => intro node; rfl
  | cons item rest ih =>
      intro node
      rw [List.foldl_cons, ih]
      unfold extend InventoryItem.shape
      cases hkeys : item.keyColumns with
      | none => rw [List.filterMap_cons_none (by rw [hkeys]; rfl)]
      | some keyColumns =>
          rw [List.filterMap_cons_some (by rw [hkeys]; rfl),
            List.getLast?_cons]
          rfl

/-- A node is without attributes if it was before, and no item has added
some. -/
theorem isEmpty_attributes_foldl_extend (items : List InventoryItem) :
    ∀ node : StatusNode, (items.foldl extend node).attributes.isEmpty
      = (node.attributes.isEmpty && items.all fun item =>
        item.shape.isSome || item.status.isEmpty) := by
  induction items with
  | nil => intro node; exact (Bool.and_true _).symm
  | cons item rest ih =>
      intro node
      rw [List.foldl_cons, ih, List.all_cons, ← Bool.and_assoc]
      unfold extend InventoryItem.shape
      cases hkeys : item.keyColumns with
      | none =>
          rw [SortedMap.isEmpty_overlay]
          rfl
      | some keyColumns => simp

end StatusNode

namespace StatusTree

variable {items : List InventoryItem} {tree : StatusTree}

-- ==================================================== one item

/-- A tree with the status data of one more item. -/
def insertItem (t : StatusTree) (item : InventoryItem) : StatusTree :=
  if item.status.isEmpty then t else t.modify item.path (·.extend item)

namespace Growth

private theorem getD_eq_default_iff {α : Type} {known? : Option α} {new : α} :
    known?.getD new = new ↔ ∀ known ∈ known?, known = new := by
  cases known? <;> simp

variable {g after : Growth} {item : InventoryItem}

private theorem addAttributes_eq (hitem : item.keyColumns = none) :
    g.addAttributes item = { g with tree := g.tree.insertItem item } := by
  unfold addAttributes insertItem StatusNode.extend
  rw [hitem]
  by_cases hempty : item.status.isEmpty = true
  · rw [if_pos hempty, if_pos hempty]
  · rw [if_neg hempty, if_neg hempty]

private theorem addRow_eq_ok_iff {keyColumns : Fields}
    (hitem : item.keyColumns = some keyColumns) :
    g.addRow item keyColumns = .ok after
      ↔ (∀ known ∈ g.tableKeys.lookup item.path, known = keyColumns.keys)
        ∧ after =
          { g with
            tree := g.tree.insertItem item
            tableKeys := (item.path, keyColumns.keys) :: g.tableKeys } := by
  unfold addRow insertItem StatusNode.extend
  rw [hitem]
  simp only
  by_cases hknown : (g.tableKeys.lookup item.path).getD keyColumns.keys
      = keyColumns.keys
  case neg =>
    rw [if_pos hknown]
    rw [getD_eq_default_iff] at hknown
    constructor
    · intro h; cases h
    · intro h; exact absurd h.1 hknown
  case pos =>
    rw [hknown, if_neg (fun h => h rfl)]
    rw [getD_eq_default_iff] at hknown
    rw [and_iff_right hknown]
    by_cases hempty : item.status.isEmpty = true
    · rw [if_pos hempty, if_pos hempty, Except.ok.injEq]
      exact eq_comm
    · rw [if_neg hempty, if_neg hempty, Except.ok.injEq]
      exact eq_comm

/-- The key columns that are known after an item. -/
def learnKeys (g : Growth) (item : InventoryItem) :
    List (List String × List String) :=
  match item.shape with
  | none => g.tableKeys
  | some names => (item.path, names) :: g.tableKeys

/-- An item is taken if what is known of its path allows it. Then its status
data is added, and its kind and key columns are what is known of its path. -/
theorem add_eq_ok_iff :
    g.add item = .ok after
      ↔ (∀ known ∈ g.kinds.lookup item.path, known = item.kind)
        ∧ (∀ names ∈ item.shape, ∀ known ∈ g.tableKeys.lookup item.path,
            known = names)
        ∧ after =
          { tree := g.tree.insertItem item
            kinds := (item.path, item.kind) :: g.kinds
            tableKeys := g.learnKeys item } := by
  unfold add
  simp only
  by_cases hkind : (g.kinds.lookup item.path).getD item.kind = item.kind
  case neg =>
    rw [if_pos hkind]
    rw [getD_eq_default_iff] at hkind
    constructor
    · intro h; cases h
    · intro h; exact absurd h.1 hkind
  case pos =>
    rw [hkind, if_neg (fun h => h rfl)]
    rw [getD_eq_default_iff] at hkind
    rw [and_iff_right hkind]
    unfold learnKeys InventoryItem.shape
    cases hitem : item.keyColumns with
    | none =>
        simp only [addAttributes_eq hitem]
        simp [eq_comm]
    | some keyColumns =>
        simp only [addRow_eq_ok_iff hitem]
        simp

theorem tree_of_add (h : g.add item = .ok after) :
    after.tree = g.tree.insertItem item := by
  obtain ⟨-, -, rfl⟩ := add_eq_ok_iff.mp h
  rfl

/-- What is remembered of an item that was taken. -/
structure Knows (g : Growth) (item : InventoryItem) : Prop where
  kind : g.kinds.lookup item.path = some item.kind
  shape : ∀ names ∈ item.shape, g.tableKeys.lookup item.path = some names

/-- An entry in front that says what has been said of its key changes no
look-up. -/
private theorem lookup_cons_of_agree {β : Type} {key key' : List String}
    {b new : β} {entries : List (List String × β)}
    (hnew : ∀ known ∈ entries.lookup key', known = new)
    (h : entries.lookup key = some b) :
    ((key', new) :: entries).lookup key = some b := by
  rw [List.lookup_cons]
  by_cases hkey : key = key'
  · subst hkey
    rw [beq_self_eq_true, hnew b h]
  · rw [beq_eq_false_iff_ne.mpr hkey]
    exact h

theorem knows_of_add (h : g.add item = .ok after) : after.Knows item := by
  obtain ⟨-, -, rfl⟩ := add_eq_ok_iff.mp h
  refine ⟨List.lookup_cons_self, ?_⟩
  intro names hnames
  unfold learnKeys
  rw [Option.mem_def.mp hnames]
  exact List.lookup_cons_self

/-- What is remembered stays: an item that would change it is not taken. -/
theorem Knows.of_add {earlier : InventoryItem} (hknows : g.Knows earlier)
    (h : g.add item = .ok after) : after.Knows earlier := by
  obtain ⟨hkind, hkeys, rfl⟩ := add_eq_ok_iff.mp h
  refine ⟨lookup_cons_of_agree hkind hknows.kind, ?_⟩
  intro names hnames
  have hlookup := hknows.shape names hnames
  unfold learnKeys
  cases hshape : item.shape with
  | none => exact hlookup
  | some new => exact lookup_cons_of_agree (hkeys new hshape) hlookup

/-- What all items do: each adds its status data and is remembered. -/
theorem of_foldlM {items : List InventoryItem} :
    ∀ {g after : Growth}, items.foldlM add g = .ok after →
      after.tree = items.foldl insertItem g.tree
        ∧ ∀ item, g.Knows item ∨ item ∈ items → after.Knows item := by
  induction items with
  | nil =>
      intro g after h
      cases h
      refine ⟨rfl, ?_⟩
      rintro item (hknows | hmem)
      · exact hknows
      · cases hmem
  | cons first rest ih =>
      intro g after h
      rw [List.foldlM_cons, bind_eq_ok_iff] at h
      obtain ⟨next, hfirst, hrest⟩ := h
      obtain ⟨htree, hall⟩ := ih hrest
      constructor
      · rw [htree, tree_of_add hfirst, List.foldl_cons]
      · rintro item (hknows | hmem)
        · exact hall item (.inl (hknows.of_add hfirst))
        · obtain rfl | hlater := List.mem_cons.mp hmem
          · exact hall item (.inl (knows_of_add hfirst))
          · exact hall item (.inr hlater)

/-- Items that are remembered together agree on their path. -/
theorem Knows.shape_eq {a b : InventoryItem} (ha : g.Knows a)
    (hb : g.Knows b) (hpath : a.path = b.path) : a.shape = b.shape := by
  have hkind : a.kind = b.kind :=
    Option.some_inj.mp (ha.kind.symm.trans (hpath ▸ hb.kind))
  have hnone := InventoryItem.kind_eq_iff.mp hkind
  cases hshape : a.shape with
  | none => exact (hnone.mp hshape).symm
  | some names =>
      cases hother : b.shape with
      | none => rw [hnone.mpr hother] at hshape; cases hshape
      | some others =>
          have hlookup := ha.shape names hshape
          rw [hpath, hb.shape others hother] at hlookup
          exact hlookup.symm

end Growth

/-- The tree of items that are all taken. -/
theorem ofItems_eq (h : ofItems items = .ok tree) :
    tree = items.foldl insertItem ∅ := by
  obtain ⟨growth, hgrowth, rfl⟩ := map_eq_ok_iff.mp h
  exact (Growth.of_foldlM hgrowth).1

/-- Items that are taken together and have the same path have the same
shape. -/
theorem shape_eq_of_path_eq (h : ofItems items = .ok tree)
    {a b : InventoryItem} (ha : a ∈ items) (hb : b ∈ items)
    (hpath : a.path = b.path) : a.shape = b.shape := by
  obtain ⟨growth, hgrowth, -⟩ := map_eq_ok_iff.mp h
  have hknows := (Growth.of_foldlM hgrowth).2
  exact (hknows a (.inr ha)).shape_eq (hknows b (.inr hb)) hpath

-- ==================================================== one name

/-- The items that have status data for the node with a name. -/
def contributors (items : List InventoryItem) (name : String) :
    List InventoryItem :=
  items.filter fun item =>
    !item.status.isEmpty && nodeName item.path == name

theorem mem_contributors {name : String} {item : InventoryItem} :
    item ∈ contributors items name ↔ item ∈ items
      ∧ item.status.isEmpty = false ∧ nodeName item.path = name := by
  unfold contributors
  rw [List.mem_filter, Bool.and_eq_true, Bool.not_eq_true', beq_iff_eq]

theorem get?_insertItem (t : StatusTree) (item : InventoryItem)
    (name : String) :
    (t.insertItem item).nodes.get? name
      = if item.status.isEmpty = false ∧ nodeName item.path = name then
          some (((t.nodes.get? name).getD {}).extend item)
        else t.nodes.get? name := by
  unfold insertItem modify node?
  cases hempty : item.status.isEmpty with
  | true => simp
  | false =>
      simp only [Bool.false_eq_true, if_false, true_and]
      rw [SortedMap.get?_insert]
      by_cases hname : nodeName item.path = name
      · rw [if_pos hname.symm, if_pos hname, hname]
      · rw [if_neg (Ne.symm hname), if_neg hname]

/-- Seen from one name, adding items is adding those with status data for
it. -/
theorem get?_foldl_insertItem (items : List InventoryItem) (name : String) :
    ∀ t : StatusTree, (items.foldl insertItem t).nodes.get? name
      = if contributors items name = [] then t.nodes.get? name
        else some ((contributors items name).foldl StatusNode.extend
          ((t.nodes.get? name).getD {})) := by
  induction items with
  | nil => intro t; rfl
  | cons item rest ih =>
      intro t
      rw [List.foldl_cons, ih, get?_insertItem]
      by_cases hitem : item.status.isEmpty = false ∧ nodeName item.path = name
      · have hcons : contributors (item :: rest) name
            = item :: contributors rest name := by
          unfold contributors
          rw [List.filter_cons_of_pos (by simp [hitem.1, hitem.2])]
        rw [if_pos hitem, hcons, if_neg (List.cons_ne_nil _ _),
          List.foldl_cons]
        by_cases hrest : contributors rest name = []
        · rw [if_pos hrest, hrest]
          rfl
        · rw [if_neg hrest]
          rfl
      · have hskip : contributors (item :: rest) name
            = contributors rest name := by
          unfold contributors
          rw [List.filter_cons_of_neg]
          simpa using hitem
        rw [if_neg hitem, hskip]

/-- A node is its items, and there is none without an item. -/
theorem get?_ofItems (h : ofItems items = .ok tree) (name : String) :
    tree.nodes.get? name = if contributors items name = [] then none
      else some ((contributors items name).foldl StatusNode.extend {}) := by
  rw [ofItems_eq h, get?_foldl_insertItem]
  rfl

-- ==================================================== one kind

/-- What a node with the data of some items is meant to be: it holds
attributes or rows, and all items that are rows have its key columns. -/
structure OneKind (node : StatusNode) (sources : List InventoryItem) :
    Prop where
  kind : node.attributes.isEmpty = true ∨ node.rows = []
  rows : node.rows = sources.filterMap (·.row?)
  keyColumns : ∀ item ∈ sources, ∀ names, item.shape = some names →
    names = node.keyColumns

section

variable {sources : List InventoryItem}

private theorem rows_eq_nil_iff :
    (sources.foldl StatusNode.extend {}).rows = []
      ↔ ∀ item ∈ sources, item.shape = none := by
  rw [StatusNode.rows_foldl_extend, List.nil_append,
    List.filterMap_eq_nil_iff]
  exact forall₂_congr fun item _ => InventoryItem.row?_eq_none_iff

private theorem attributes_isEmpty_iff
    (hstatus : ∀ item ∈ sources, item.status.isEmpty = false) :
    (sources.foldl StatusNode.extend {}).attributes.isEmpty = true
      ↔ ∀ item ∈ sources, item.shape ≠ none := by
  rw [StatusNode.isEmpty_attributes_foldl_extend, Bool.and_eq_true,
    List.all_eq_true,
    and_iff_right (show SortedMap.isEmpty ∅ = true from rfl)]
  refine forall₂_congr fun item hitem => ?_
  rw [hstatus item hitem, Bool.or_false, Option.isSome_iff_ne_none]

/-- A node is what it is meant to be exactly if its items agree. -/
theorem oneKind_iff
    (hstatus : ∀ item ∈ sources, item.status.isEmpty = false) :
    OneKind (sources.foldl StatusNode.extend {}) sources
      ↔ ∀ a ∈ sources, ∀ b ∈ sources, a.shape = b.shape := by
  constructor
  case mp =>
    intro h a ha b hb
    obtain hrows | hattributes := h.kind
    · rw [attributes_isEmpty_iff hstatus] at hrows
      obtain ⟨names, hnames⟩ := Option.ne_none_iff_exists'.mp (hrows a ha)
      obtain ⟨others, hothers⟩ := Option.ne_none_iff_exists'.mp (hrows b hb)
      rw [hnames, hothers, h.keyColumns a ha names hnames,
        h.keyColumns b hb others hothers]
    · rw [rows_eq_nil_iff] at hattributes
      rw [hattributes a ha, hattributes b hb]
  case mpr =>
    intro h
    refine ⟨?_, ?_, ?_⟩
    · by_cases hnone : ∃ item ∈ sources, item.shape = none
      · obtain ⟨item, hitem, hshape⟩ := hnone
        right
        rw [rows_eq_nil_iff]
        intro other hother
        rw [h other hother item hitem, hshape]
      · left
        rw [attributes_isEmpty_iff hstatus]
        intro item hitem hshape
        exact hnone ⟨item, hitem, hshape⟩
    · exact StatusNode.rows_foldl_extend sources {}
    · intro item hitem names hnames
      rw [StatusNode.keyColumns_foldl_extend]
      have hmem : names ∈ sources.filterMap (·.shape) :=
        List.mem_filterMap.mpr ⟨item, hitem, hnames⟩
      cases hlast : (sources.filterMap (·.shape)).getLast? with
      | none =>
          rw [List.getLast?_eq_none_iff] at hlast
          rw [hlast] at hmem
          cases hmem
      | some last =>
          obtain ⟨other, hother, hshape⟩ :=
            List.mem_filterMap.mp (List.mem_of_getLast? hlast)
          rw [h item hitem other hother, hshape] at hnames
          exact (Option.some_inj.mp hnames).symm

end

-- ==================================================== names and paths

/-- A path with parts that have no dots. -/
def DotFree (path : List String) : Prop :=
  path ≠ [] ∧ ∀ part ∈ path, '.' ∉ part.toList

instance (path : List String) : Decidable (DotFree path) :=
  inferInstanceAs (Decidable (_ ∧ _))

/-- A path without dots can be read off its name. -/
theorem nodeName_injective {a b : List String} (ha : DotFree a)
    (hb : DotFree b) (h : nodeName a = nodeName b) : a = b := by
  -- splitting the name at the dots gives the parts back
  have hsplit : ∀ path, DotFree path →
      (nodeName path).toList.splitOn '.' = path.map String.toList := by
    intro path ⟨hne, hparts⟩
    unfold nodeName
    rw [String.toList_intercalate]
    apply List.splitOn_intercalate
    · intro part hpart
      obtain ⟨text, htext, rfl⟩ := List.mem_map.mp hpart
      exact hparts text htext
    · rw [ne_eq, List.map_eq_nil_iff]
      exact hne
  have hmap : a.map String.toList = b.map String.toList := by
    rw [← hsplit a ha, ← hsplit b hb, h]
  exact (List.map_inj_right fun _ _ => String.toList_inj.mp).mp hmap

-- ==================================================== all nodes

/-- Every node is what it is meant to be. -/
def AllOneKind (items : List InventoryItem) (tree : StatusTree) : Prop :=
  ∀ name node, tree.nodes.get? name = some node →
    OneKind node (contributors items name)

/-- Items with status data for the same node have the same shape. -/
def NodesAgree (items : List InventoryItem) : Prop :=
  ∀ a ∈ items, ∀ b ∈ items,
    a.status.isEmpty = false → b.status.isEmpty = false →
    nodeName a.path = nodeName b.path → a.shape = b.shape

theorem allOneKind_iff (h : ofItems items = .ok tree) :
    AllOneKind items tree ↔ NodesAgree items := by
  have hstatus : ∀ name, ∀ item ∈ contributors items name,
      item.status.isEmpty = false := by
    intro name item hitem
    exact (mem_contributors.mp hitem).2.1
  constructor
  · intro hall a ha b hb hastatus hbstatus hname
    have hamem : a ∈ contributors items (nodeName a.path) :=
      mem_contributors.mpr ⟨ha, hastatus, rfl⟩
    have hbmem : b ∈ contributors items (nodeName a.path) :=
      mem_contributors.mpr ⟨hb, hbstatus, hname.symm⟩
    have hnode := get?_ofItems h (nodeName a.path)
    rw [if_neg (List.ne_nil_of_mem hamem)] at hnode
    exact (oneKind_iff (hstatus _)).mp (hall _ _ hnode) a hamem b hbmem
  · intro hagree name node hnode
    rw [get?_ofItems h] at hnode
    split at hnode
    case isTrue => cases hnode
    case isFalse =>
      cases hnode
      rw [oneKind_iff (hstatus name)]
      intro a ha b hb
      obtain ⟨hamem, hastatus, haname⟩ := mem_contributors.mp ha
      obtain ⟨hbmem, hbstatus, hbname⟩ := mem_contributors.mp hb
      exact hagree a hamem b hbmem hastatus hbstatus
        (haname.trans hbname.symm)

/-- Items whose paths differ but have the same name agree. -/
def LookAlikesAgree (items : List InventoryItem) : Prop :=
  ∀ a ∈ items, ∀ b ∈ items,
    a.status.isEmpty = false → b.status.isEmpty = false →
    nodeName a.path = nodeName b.path → a.path ≠ b.path → a.shape = b.shape

theorem nodesAgree_iff (h : ofItems items = .ok tree) :
    NodesAgree items ↔ LookAlikesAgree items := by
  constructor
  · intro hall a ha b hb hastatus hbstatus hname _
    exact hall a ha b hb hastatus hbstatus hname
  · intro hall a ha b hb hastatus hbstatus hname
    by_cases hpath : a.path = b.path
    · exact shape_eq_of_path_eq h ha hb hpath
    · exact hall a ha b hb hastatus hbstatus hname hpath

theorem LookAlikesAgree.of_dotFree
    (hdots : ∀ item ∈ items, DotFree item.path) : LookAlikesAgree items := by
  intro a ha b hb _ _ hname hpath
  exact absurd (nodeName_injective (hdots a ha) (hdots b hb) hname) hpath

/-- A tree of items that are all taken has nodes that are attributes or one
table each, unless different paths have the same name and their items differ
in kind or key columns; in particular if no part of a path has a dot in it. -/
theorem one_kind_iff (h : ofItems items = .ok tree) :
    (AllOneKind items tree ↔ LookAlikesAgree items)
      ∧ ((∀ item ∈ items, DotFree item.path) → AllOneKind items tree) := by
  have hiff : AllOneKind items tree ↔ LookAlikesAgree items :=
    (allOneKind_iff h).trans (nodesAgree_iff h)
  refine ⟨hiff, ?_⟩
  intro hdots
  exact hiff.mpr (LookAlikesAgree.of_dotFree hdots)

/-- Two rows of a table and attributes beside it. -/
def cards : List InventoryItem :=
  [ .tableRow ["hardware", "cards"]
      (.ofList [("slot", .int 1)]) (.ofList [("speed", .int 10)]),
    .attributes ["hardware", "cpu"] (.ofList [("cores", .int 4)]),
    .tableRow ["hardware", "cards"]
      (.ofList [("slot", .int 2)]) (.ofList [("speed", .int 40)]) ]

theorem one_kind_iff_cards :
    ∃ tree, ofItems cards = .ok tree
      ∧ (∀ item ∈ cards, DotFree item.path) ∧ AllOneKind cards tree := by
  have hdots : ∀ item ∈ cards, DotFree item.path := by decide +kernel
  obtain ⟨tree, htree⟩ : ∃ tree, ofItems cards = .ok tree := ⟨_, rfl⟩
  exact ⟨tree, htree, hdots, (one_kind_iff htree).2 hdots⟩

/-- The attributes of a path and a row of a table whose path has the same
name. -/
def lookAlikes : List InventoryItem :=
  [ .attributes ["a", "b"] (.ofList [("x", .int 1)]),
    .tableRow ["a.b"] (.ofList [("id", .int 1)]) (.ofList [("y", .int 2)]) ]

theorem dotted_part_mixes_kinds :
    ∃ tree node, ofItems lookAlikes = .ok tree
      ∧ tree.node? ["a", "b"] = some node
      ∧ node.attributes.isEmpty = false ∧ node.rows ≠ [] := by
  refine ⟨_, _, rfl, rfl, rfl, ?_⟩
  exact List.cons_ne_nil _ _

end StatusTree

end HostWatch
