/-
This file says in what order a table lists its entries, and that it lists all of them. The
keys of a sound namespace are strictly increasing, so the entries of one child come before
those of the next, and the lists of keys increase segment by segment. In a sound namespace
every such list is a path, so a listing that leaves out what is no path leaves out nothing.
Going down to an entry passes through nothing but namespaces, so an entry and a namespace
never share a path.
-/

import Mathlib.Data.List.Basic
import Phrasebook.Proofs.KeyPath.RoundTrip
import Phrasebook.Proofs.Table.Enumeration

namespace Phrasebook

/-! ### The order of paths -/

namespace KeyPath

/-- Of two lists of keys the one with the smaller first key comes first. -/
theorem compare_cons_of_lt {key other : String} (smaller : key < other)
    (keys others : List String) : compare (key :: keys) (other :: others) = .lt := by
  have decided : compare key other = .lt := if_pos smaller
  rw [List.compare_eq_compareLex, List.compareLex_cons_cons, decided]
  rfl

/-- After equal keys the rest decides. -/
theorem compare_cons_self (key : String) (keys others : List String) :
    compare (key :: keys) (key :: others) = compare keys others := by
  rw [List.compare_eq_compareLex, List.compareLex_cons_cons, Std.compare_self]
  rfl

end KeyPath

/-- The keys of the first come before those of the second. -/
def Leads (first second : List String × LeafEntry) : Prop :=
  compare first.1 second.1 = .lt

theorem pairwise_leads_map_cons {leaves : List (List String × LeafEntry)}
    (increasing : leaves.Pairwise Leads) (key : String) :
    (leaves.map fun leaf => (key :: leaf.1, leaf.2)).Pairwise Leads := by
  rw [List.pairwise_map]
  refine increasing.imp fun {first second} leads => ?_
  exact (KeyPath.compare_cons_self key first.1 second.1).trans leads

mutual

theorem Node.pairwise_leads_leaves {node : Node} (sound : node.Sound) :
    node.leaves.Pairwise Leads := by
  match node with
  | .leaf entry =>
    rw [Node.leaves]
    exact List.pairwise_singleton _ _
  | .group children =>
    rw [Node.Sound] at sound
    rw [Node.leaves]
    exact Namespace.pairwise_leads_leaves sound
termination_by structural node

/-- The entries of a sound namespace come in increasing order of the keys that lead to them. -/
theorem Namespace.pairwise_leads_leaves {children : Namespace}
    (sound : Namespace.Sound children) : (Namespace.leaves children).Pairwise Leads := by
  match children with
  | [] =>
    rw [Namespace.leaves]
    exact List.Pairwise.nil
  | (key, node) :: rest =>
    rw [Namespace.Sound] at sound
    obtain ⟨-, ordered, soundNode, soundRest⟩ := sound
    rw [Namespace.leaves, List.pairwise_append]
    refine ⟨pairwise_leads_map_cons (Node.pairwise_leads_leaves soundNode) key,
      Namespace.pairwise_leads_leaves soundRest, ?_⟩
    intro first firstMember second secondMember
    obtain ⟨inner, -, rfl⟩ := List.mem_map.mp firstMember
    obtain ⟨child, childMember, other, -, rfl⟩ := Namespace.mem_leaves_iff.mp secondMember
    exact KeyPath.compare_cons_of_lt (ordered child childMember) inner.1 other.1
termination_by structural children

end

/-! ### The number of entries -/

mutual

theorem Node.length_leaves (node : Node) : node.leaves.length = node.leafCount := by
  match node with
  | .leaf entry => rfl
  | .group children =>
    rw [Node.leaves, Node.leafCount]
    exact Namespace.length_leaves children
termination_by structural node

theorem Namespace.length_leaves (children : Namespace) :
    (Namespace.leaves children).length = Namespace.leafCount children := by
  match children with
  | [] => rfl
  | (key, node) :: rest =>
    rw [Namespace.leaves, Namespace.leafCount, List.length_append, List.length_map,
      Node.length_leaves node, Namespace.length_leaves rest]
termination_by structural children

end

/-! ### Listing what makes a path -/

/-- The entry with its path, if the keys that lead to it make one. -/
def placed? (keys : List String) (entry : LeafEntry) : Option (KeyPath × LeafEntry) :=
  match KeyPath.ofSegments keys with
  | .error _ => none
  | .ok path => some (path, entry)

theorem placed?_segments (path : KeyPath) (entry : LeafEntry) :
    placed? path.segments entry = some (path, entry) := by
  rw [placed?, path.ofSegments_segments]

mutual

/-- The entries at the node and below it whose keys, behind those above, make a path. -/
def Node.placedLeaves (above : List String) : Node → List (KeyPath × LeafEntry)
  | .leaf entry => (placed? above entry).toList
  | .group children => Namespace.placedLeaves above children
termination_by structural node => node

/-- The entries of the children whose keys, behind those above, make a path. -/
def Namespace.placedLeaves (above : List String) : Namespace → List (KeyPath × LeafEntry)
  | [] => []
  | (key, node) :: rest =>
    node.placedLeaves (above ++ [key]) ++ Namespace.placedLeaves above rest
termination_by structural children => children

end

mutual

theorem Node.placedLeaves_eq (above : List String) (node : Node) :
    node.placedLeaves above =
      node.leaves.filterMap fun leaf => placed? (above ++ leaf.1) leaf.2 := by
  match node with
  | .leaf entry =>
    rw [Node.placedLeaves, Node.leaves, List.filterMap_cons, List.append_nil]
    cases placed? above entry <;> rfl
  | .group children =>
    rw [Node.placedLeaves, Node.leaves]
    exact Namespace.placedLeaves_eq above children
termination_by structural node

theorem Namespace.placedLeaves_eq (above : List String) (children : Namespace) :
    Namespace.placedLeaves above children =
      (Namespace.leaves children).filterMap fun leaf => placed? (above ++ leaf.1) leaf.2 := by
  match children with
  | [] => rfl
  | (key, node) :: rest =>
    rw [Namespace.placedLeaves, Namespace.leaves, List.filterMap_append, List.filterMap_map,
      Node.placedLeaves_eq (above ++ [key]) node, Namespace.placedLeaves_eq above rest]
    simp only [List.append_assoc, List.singleton_append, Function.comp_def]
termination_by structural children

end

/-! ### Going down -/

theorem Node.at?_append (first second : List String) (node : Node) :
    node.at? (first ++ second) = (node.at? first).bind (Node.at? second) := by
  induction first generalizing node with
  | nil => rfl
  | cons key keys inductionHypothesis =>
    cases node with
    | leaf entry => rfl
    | group children =>
      rw [List.cons_append, at?, at?, Option.bind_assoc]
      exact congrArg _ (funext inductionHypothesis)

/-- What lies above an entry is a namespace. -/
theorem Node.exists_group_of_at? {node : Node} {first second : List String} {entry : LeafEntry}
    (found : node.at? (first ++ second) = some (.leaf entry)) (below : second ≠ []) :
    ∃ children, node.at? first = some (.group children) := by
  rw [at?_append, Option.bind_eq_some_iff] at found
  obtain ⟨inner, reached, onward⟩ := found
  cases inner with
  | group children => exact ⟨children, reached⟩
  | leaf held =>
    cases second with
    | nil => exact absurd rfl below
    | cons key keys => cases onward

namespace Table

variable {table : Table}

theorem entries_pairwise (table : Table) :
    table.entries.Pairwise fun first second => compare first.1 second.1 = .lt := by
  rw [entries, List.pairwise_map]
  have increasing := Namespace.pairwise_leads_leaves table.sound
  rw [← List.attach_map_subtype_val table.root.leaves, List.pairwise_map] at increasing
  exact increasing

theorem length_entries (table : Table) : table.entries.length = table.size := by
  rw [entries, List.length_map, List.length_attach, size, Namespace.length_leaves]

/-- No entry is left out for want of a path. -/
theorem placedLeaves_root (table : Table) :
    Namespace.placedLeaves [] table.root = table.entries := by
  rw [Namespace.placedLeaves_eq, entries, ← List.filterMap_eq_map]
  conv_lhs => rw [← List.attach_map_subtype_val table.root.leaves]
  rw [List.filterMap_map]
  refine List.filterMap_congr fun leaf _ => ?_
  have path := Namespace.path_of_mem_leaves table.sound leaf.2
  exact placed?_segments ⟨leaf.1.1, path.1, path.2⟩ leaf.1.2

/-- An entry and a namespace never share a path. -/
theorem not_namespace?_of_get? {path : KeyPath} (found : (table.get? path).isSome) :
    ¬(table.namespace? path).isSome := by
  rw [Option.isSome_iff_exists] at found ⊢
  obtain ⟨entry, found⟩ := found
  rintro ⟨children, shared⟩
  rw [get?_eq_some_iff] at found
  rw [namespace?_eq_some_iff, found] at shared
  cases shared

/-- The keys that a path begins with make a path too, and above an entry this path leads to a
namespace. -/
theorem exists_namespace?_of_prefix {path : KeyPath} {entry : LeafEntry} {keys : List String}
    (found : table.get? path = some entry) (begins : keys <+: path.segments)
    (proper : keys ≠ path.segments) (nonempty : keys ≠ []) :
    ∃ above : KeyPath, above.segments = keys ∧ (table.namespace? above).isSome := by
  have wellFormed : ∀ segment ∈ keys, checkSegment segment = .ok () :=
    fun segment member => path.wellFormed segment (begins.subset member)
  obtain ⟨below, split⟩ := begins
  have nonemptyBelow : below ≠ [] := by
    rintro rfl
    rw [List.append_nil] at split
    exact proper split
  rw [get?_eq_some_iff, node?, ← split] at found
  obtain ⟨children, reached⟩ := Node.exists_group_of_at? found nonemptyBelow
  refine ⟨⟨keys, nonempty, wellFormed⟩, rfl, ?_⟩
  rw [Option.isSome_iff_exists]
  exact ⟨children, namespace?_eq_some_iff.mpr reached⟩

/-- A table lists its entries by strictly increasing paths, precisely those that it can look up,
and as many as it counts; a listing that leaves out what is no path gives the same. No path
leads both to an entry and to a namespace, and each path above that of an entry leads to a
namespace. -/
theorem listing_agrees (table : Table) :
    (table.entries.Pairwise fun first second => compare first.1 second.1 = .lt) ∧
    (∀ path entry, (path, entry) ∈ table.entries ↔ table.get? path = some entry) ∧
    table.entries.length = table.size ∧
    Namespace.placedLeaves [] table.root = table.entries ∧
    (∀ path, (table.get? path).isSome → ¬(table.namespace? path).isSome) ∧
    ∀ path entry, table.get? path = some entry → ∀ keys, keys <+: path.segments →
      keys ≠ path.segments → keys ≠ [] →
        ∃ above : KeyPath, above.segments = keys ∧ (table.namespace? above).isSome := by
  refine ⟨table.entries_pairwise, fun path entry => mem_entries_iff, table.length_entries,
    table.placedLeaves_root, fun path => not_namespace?_of_get?, ?_⟩
  intro path entry found keys begins proper nonempty
  exact exists_namespace?_of_prefix found begins proper nonempty

/-- The title of the first step of a dialogue. -/
def stepTitle : KeyPath :=
  ⟨["config", "step", "title"], by decide, by decide⟩

/-- The title of a dialogue, and that of its first step. -/
def dialogueTable : Table :=
  ⟨[("config", .group [
      ("step", .group [("title", .leaf (.literal (.ofSegments [.text "Pick"])))])]),
    ("title", .leaf (.redirect stepTitle))], by
    simp only [Namespace.Sound, Node.Sound]
    decide⟩

theorem listing_agrees_dialogueTable :
    dialogueTable.get? stepTitle = some (.literal (.ofSegments [.text "Pick"])) ∧
    dialogueTable.entries.length = 2 ∧
    ¬(dialogueTable.namespace? stepTitle).isSome ∧
    ∃ above : KeyPath, above.segments = ["config", "step"] ∧
      (dialogueTable.namespace? above).isSome := by
  have found : dialogueTable.get? stepTitle = some (.literal (.ofSegments [.text "Pick"])) := by
    decide
  obtain ⟨-, -, counted, -, apart, above⟩ := listing_agrees dialogueTable
  refine ⟨found, counted.trans rfl, apart stepTitle (Option.isSome_of_eq_some found), ?_⟩
  exact above stepTitle _ found ["config", "step"] (by decide) (by decide) (by decide)

end Table

end Phrasebook
