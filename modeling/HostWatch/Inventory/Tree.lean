/-
The status data of a host, as a tree of nodes. A node holds attributes or
the rows of a table, whose key columns are the same in every row.
-/
import HostWatch.Text.Quoted
import HostWatch.Document.Decode

namespace HostWatch

/-- What an item contributes to a node. -/
inductive ItemKind where
  | attributes
  | tableRow
deriving DecidableEq, Repr

/-- The word for a kind of item. -/
def ItemKind.name : ItemKind → String
  | .attributes => "Attributes"
  | .tableRow => "TableRow"

/-- An inventory item. Only its status data goes into the tree. -/
structure InventoryItem where
  path : List String
  /-- The key columns of a table row; attributes have none. -/
  keyColumns : Option Fields
  /-- The data that does not change from one check to the next. -/
  inventory : Fields
  status : Fields

namespace InventoryItem

/-- Attributes of a node. -/
def attributes (path : List String) (status : Fields) (inventory : Fields := ∅) :
    InventoryItem :=
  { path, keyColumns := none, inventory, status }

/-- A row of a table. -/
def tableRow (path : List String) (keyColumns status : Fields) (inventory : Fields := ∅) :
    InventoryItem :=
  { path, keyColumns := some keyColumns, inventory, status }

/-- Which kind of item it is. -/
def kind (item : InventoryItem) : ItemKind :=
  if item.keyColumns.isSome then .tableRow else .attributes

end InventoryItem

/-- How an item contradicts the items before it. -/
inductive TreeConflict where
  /-- The path is that of a node of the other kind. -/
  | kind (path : List String) (new known : ItemKind)
  /-- The table has other key columns. -/
  | keyColumns (path known new : List String)
deriving DecidableEq, Repr

/-- What is said of a contradiction. -/
def TreeConflict.message : TreeConflict → String
  | .kind path new known =>
    s!"Cannot create {new.name} at path {Text.quoteList path}: this is a {known.name} node."
  | .keyColumns path known new =>
    s!"Table at path {Text.quoteList path} has key columns {Text.quoteList known}, " ++
      s!"got {Text.quoteList new}"

/-- A node of the tree. -/
structure StatusNode where
  attributes : Fields := ∅
  keyColumns : List String := []
  rows : List Fields := []

namespace StatusNode

/-- A node as a value; parts that are empty are left out. -/
def toValue (n : StatusNode) : Value :=
  let attributes :=
    if n.attributes.isEmpty then [] else [("attributes", Value.ofFields n.attributes)]
  let keyColumns :=
    if n.keyColumns.isEmpty then [] else [("key_columns", Value.ofTexts n.keyColumns)]
  let rows := if n.rows.isEmpty then [] else [("rows", Value.list (n.rows.map .ofFields))]
  .ofPairs (attributes ++ keyColumns ++ rows)

/-- Reads a node. -/
def decode : Decoder StatusNode := fun d => do
  let slot ← Slot.ofDocument? .data ["attributes", "key_columns", "rows"] d
  let columns := Decoder.map Decoder.any
  let attributes ← (slot "attributes").withDefault ∅ columns
  let keyColumns ← (slot "key_columns").withDefault [] (Decoder.list Decoder.text)
  let rows ← (slot "rows").withDefault [] (Decoder.list columns)
  pure { attributes, keyColumns, rows }

end StatusNode

/-- The status data of a host. -/
structure StatusTree where
  /-- The nodes by path, its parts joined by dots. -/
  nodes : SortedMap String StatusNode

namespace StatusTree

/-- The tree without nodes. -/
def empty : StatusTree := ⟨∅⟩

instance : EmptyCollection StatusTree := ⟨empty⟩
instance : Inhabited StatusTree := ⟨empty⟩

/-- Whether there is no node. -/
def isEmpty (t : StatusTree) : Bool := t.nodes.isEmpty

/-- The name of the node at a path. -/
def nodeName (path : List String) : String := ".".intercalate path

/-- The node at a path. -/
def node? (t : StatusTree) (path : List String) : Option StatusNode := t.nodes.get? (nodeName path)

/-- The tree with the node at a path replaced by its image; a missing node counts as empty. -/
def modify (t : StatusTree) (path : List String) (f : StatusNode → StatusNode) : StatusTree :=
  ⟨t.nodes.insert (nodeName path) (f ((t.node? path).getD {}))⟩

/-- What is known after some items: the tree, and what each path has been used for. -/
structure Growth where
  tree : StatusTree := ∅
  kinds : List (List String × ItemKind) := []
  tableKeys : List (List String × List String) := []

/-- Adds the attributes of an item. -/
def Growth.addAttributes (g : Growth) (item : InventoryItem) : Growth :=
  if item.status.isEmpty then g
  else
    { g with
      tree := g.tree.modify item.path fun node =>
        { node with attributes := node.attributes.overlay item.status } }

/-- Adds a row with the key columns `keyColumns`. -/
def Growth.addRow (g : Growth) (item : InventoryItem) (keyColumns : Fields) :
    Except TreeConflict Growth :=
  let known := (g.tableKeys.lookup item.path).getD keyColumns.keys
  if known ≠ keyColumns.keys then .error (.keyColumns item.path known keyColumns.keys)
  else
    let g := { g with tableKeys := (item.path, known) :: g.tableKeys }
    if item.status.isEmpty then .ok g
    else
      .ok { g with
        tree := g.tree.modify item.path fun node =>
          { node with
            keyColumns := known
            rows := node.rows ++ [keyColumns.overlay item.status] } }

/-- Adds an item. -/
def Growth.add (g : Growth) (item : InventoryItem) : Except TreeConflict Growth :=
  let known := (g.kinds.lookup item.path).getD item.kind
  if known ≠ item.kind then .error (.kind item.path item.kind known)
  else
    let g := { g with kinds := (item.path, known) :: g.kinds }
    match item.keyColumns with
    | none => .ok (g.addAttributes item)
    | some keyColumns => g.addRow item keyColumns

/-- The tree of some items. -/
def ofItems (items : List InventoryItem) : Except TreeConflict StatusTree :=
  (items.foldlM Growth.add {}).map (·.tree)

-- ==================================================== the stored form

/-- A tree as a value. -/
def toValue (t : StatusTree) : Value :=
  .ofPairs [("nodes", .ofFields (t.nodes.map fun _ node => node.toValue))]

/-- Reads a tree. -/
def decode : Decoder StatusTree := fun d => do
  let slot ← Slot.ofDocument? .data ["nodes"] d
  let nodes ← (slot "nodes").required (Decoder.map StatusNode.decode)
  pure ⟨nodes⟩

end StatusTree

end HostWatch
