/-
This file defines tables, the strings of one document by their key paths. A table
is a sound namespace, so each of its entries has a path, and the list of all
entries comes in the order of the paths.
-/

import Phrasebook.Table.Node

namespace Phrasebook

/-- The strings of one document. -/
structure Table where
  root : Namespace
  sound : Namespace.Sound root

namespace Table

/-! ### Lookup -/

/-- The node at a path. -/
def node? (table : Table) (path : KeyPath) : Option Node :=
  (Node.group table.root).at? path.segments

/-- The entry at a path. -/
def get? (table : Table) (path : KeyPath) : Option LeafEntry :=
  match table.node? path with
  | some (.leaf entry) => some entry
  | _ => none

/-- The namespace at a path. -/
def namespace? (table : Table) (path : KeyPath) : Option Namespace :=
  match table.node? path with
  | some (.group children) => some children
  | _ => none

/-! ### Enumeration -/

/-- All entries with their paths, in the order of the paths. -/
def entries (table : Table) : List (KeyPath × LeafEntry) :=
  table.root.leaves.attach.map fun ⟨leaf, member⟩ =>
    have path := Namespace.path_of_mem_leaves table.sound member
    (⟨leaf.1, path.1, path.2⟩, leaf.2)

/-- The paths of all entries, in order. -/
def keys (table : Table) : List KeyPath :=
  table.entries.map Prod.fst

/-- The number of entries. -/
def size (table : Table) : Nat :=
  table.root.leafCount

end Table

end Phrasebook
