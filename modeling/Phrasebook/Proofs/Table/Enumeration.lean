/-
This file shows that a table lists what it can look up. Looking a key up takes the
first child with the key; in a sound namespace the keys are strictly increasing, so
this child is the only one, and a list of keys leads to an entry exactly when it
stands with the entry in the list of all entries.
-/

import Mathlib.Data.List.Basic
import Phrasebook.Table.Basic

namespace Phrasebook

/-! ### Induction over nodes -/

mutual

theorem Node.induction {motive : Node → Prop} (leaf : ∀ entry, motive (.leaf entry))
    (group : ∀ children, (∀ child ∈ children, motive child.2) → motive (.group children))
    (node : Node) : motive node :=
  match node with
  | .leaf entry => leaf entry
  | .group children => group children (Namespace.induction leaf group children)
termination_by structural node

theorem Namespace.induction {motive : Node → Prop} (leaf : ∀ entry, motive (.leaf entry))
    (group : ∀ children, (∀ child ∈ children, motive child.2) → motive (.group children))
    (children : Namespace) : ∀ child ∈ children, motive child.2 :=
  match children with
  | [] => fun _ member => nomatch member
  | (_, node) :: rest =>
    List.forall_mem_cons.mpr
      ⟨Node.induction leaf group node, Namespace.induction leaf group rest⟩
termination_by structural children

end

/-! ### Children -/

namespace Namespace

theorem sound_of_mem {children : Namespace} (sound : Sound children) {child : String × Node}
    (member : child ∈ children) : child.2.Sound := by
  induction children with
  | nil => cases member
  | cons first rest inductionHypothesis =>
    rw [Sound] at sound
    rcases List.mem_cons.mp member with rfl | later
    · exact sound.2.2.1
    · exact inductionHypothesis sound.2.2.2 later

/-- In a sound namespace a key has no more than one child. -/
theorem lookup_eq_some_iff {children : Namespace} (sound : Sound children) {key : String}
    {node : Node} : children.lookup key = some node ↔ (key, node) ∈ children := by
  induction children with
  | nil => simp
  | cons first rest inductionHypothesis =>
    obtain ⟨other, held⟩ := first
    rw [Sound] at sound
    obtain ⟨-, ordered, -, soundRest⟩ := sound
    by_cases same : key = other
    · cases same
      have absent : (key, node) ∉ rest := fun later => String.lt_irrefl key (ordered _ later)
      rw [List.lookup_cons_self, List.mem_cons, or_iff_left absent, Option.some_inj,
        Prod.mk.injEq, eq_self, true_and]
      exact eq_comm
    · have different : (key, node) ≠ (other, held) := fun equal => same (Prod.mk.inj equal).1
      rw [List.lookup_cons, beq_eq_false_iff_ne.mpr same, List.mem_cons, or_iff_right different]
      exact inductionHypothesis soundRest

/-- The entries of a namespace are the entries of its children. -/
theorem mem_leaves_iff {children : Namespace} {leaf : List String × LeafEntry} :
    leaf ∈ leaves children ↔
      ∃ child ∈ children, ∃ inner ∈ child.2.leaves, leaf = (child.1 :: inner.1, inner.2) := by
  induction children with
  | nil => simp [leaves]
  | cons first rest inductionHypothesis =>
    obtain ⟨key, node⟩ := first
    rw [leaves, List.mem_append, List.mem_map, inductionHypothesis, List.exists_mem_cons_iff]
    simp only [eq_comm]

end Namespace

/-! ### Entries -/

theorem Node.mem_leaves_iff {node : Node} (sound : node.Sound) {keys : List String}
    {entry : LeafEntry} : (keys, entry) ∈ node.leaves ↔ node.at? keys = some (.leaf entry) := by
  induction node using Node.induction generalizing keys with
  | leaf held =>
    rw [leaves, List.mem_singleton]
    cases keys with
    | nil => simp [at?, eq_comm]
    | cons key keys => simp [at?]
  | group children inductionHypothesis =>
    rw [Sound] at sound
    rw [leaves, Namespace.mem_leaves_iff]
    cases keys with
    | nil => simp [at?]
    | cons key keys =>
      rw [at?, Option.bind_eq_some_iff]
      constructor
      · rintro ⟨child, member, inner, innerMember, same⟩
        cases same
        refine ⟨child.2, (Namespace.lookup_eq_some_iff sound).mpr member, ?_⟩
        exact (inductionHypothesis child member (Namespace.sound_of_mem sound member)).mp
          innerMember
      · rintro ⟨node, found, reached⟩
        have member := (Namespace.lookup_eq_some_iff sound).mp found
        refine ⟨_, member, (keys, entry), ?_, rfl⟩
        exact (inductionHypothesis _ member (Namespace.sound_of_mem sound member)).mpr reached

namespace Table

variable {table : Table} {path : KeyPath} {entry : LeafEntry}

theorem get?_eq_some_iff :
    table.get? path = some entry ↔ table.node? path = some (.leaf entry) := by
  unfold get?
  split
  · rename_i other found
    rw [found]
    simp
  · rename_i other
    simp only [reduceCtorEq, false_iff]
    exact other entry

theorem namespace?_eq_some_iff {children : Namespace} :
    table.namespace? path = some children ↔ table.node? path = some (.group children) := by
  unfold namespace?
  split
  · rename_i other found
    rw [found]
    simp
  · rename_i other
    simp only [reduceCtorEq, false_iff]
    exact other children

theorem mem_entries_iff_mem_leaves :
    (path, entry) ∈ table.entries ↔ (path.segments, entry) ∈ Namespace.leaves table.root := by
  unfold entries
  rw [List.mem_map]
  constructor
  · rintro ⟨⟨leaf, member⟩, -, same⟩
    cases same
    exact member
  · intro member
    exact ⟨⟨_, member⟩, List.mem_attach _ _, rfl⟩

/-- The entries of a table are those that it can look up. -/
theorem mem_entries_iff : (path, entry) ∈ table.entries ↔ table.get? path = some entry := by
  have sound : (Node.group table.root).Sound := by
    rw [Node.Sound]
    exact table.sound
  rw [mem_entries_iff_mem_leaves, get?_eq_some_iff, node?, ← Node.mem_leaves_iff sound,
    Node.leaves]

theorem mem_keys_iff : path ∈ table.keys ↔ (table.get? path).isSome := by
  rw [keys, List.mem_map, Option.isSome_iff_exists]
  constructor
  · rintro ⟨⟨_, entry⟩, member, rfl⟩
    exact ⟨entry, mem_entries_iff.mp member⟩
  · rintro ⟨entry, found⟩
    exact ⟨(path, entry), mem_entries_iff.mpr found, rfl⟩

end Table

end Phrasebook
