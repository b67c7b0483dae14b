/-
This file defines namespaces, the trees that tables are made of. A namespace
gives each of its keys either an entry or a namespace of its own. Its children
are kept in increasing order of their keys, no key twice, and every key is a
segment that can stand in a path: a namespace with these properties at every
depth is called sound. Inserting a sound child keeps a namespace sound, and in a
sound namespace every list of keys that leads to an entry is a path.
-/

import Phrasebook.Template.Basic

namespace Phrasebook

/-! ### Nodes -/

/-- What a namespace holds at a key. -/
inductive Node
  /-- An entry. -/
  | leaf (entry : LeafEntry)
  /-- A namespace. -/
  | group (children : List (String × Node))
deriving BEq

/-- The children of a namespace with their keys. -/
abbrev Namespace : Type := List (String × Node)

/-- The node that a list of keys leads to. -/
def Node.at? : List String → Node → Option Node
  | [], node => some node
  | _ :: _, .leaf _ => none
  | key :: keys, .group children => (children.lookup key).bind (Node.at? keys)

/-! ### Soundness -/

mutual

/-- All namespaces at the node and below it are sound. -/
def Node.Sound : Node → Prop
  | .leaf _ => True
  | .group children => Namespace.Sound children
termination_by structural node => node

/-- The keys are segments in strictly increasing order, and the children are sound. -/
def Namespace.Sound : Namespace → Prop
  | [] => True
  | (key, node) :: rest =>
    checkSegment key = .ok () ∧ (∀ other ∈ rest, key < other.1) ∧ node.Sound ∧
      Namespace.Sound rest
termination_by structural children => children

end

/-! ### Insertion -/

namespace Namespace

/-- Sets the child at a key. -/
def insert (key : String) (node : Node) : Namespace → Namespace
  | [] => [(key, node)]
  | (other, held) :: rest =>
    if key < other then (key, node) :: (other, held) :: rest
    else if key = other then (key, node) :: rest
    else (other, held) :: insert key node rest

theorem eq_or_mem_of_mem_insert {key : String} {node : Node} {children : Namespace}
    {child : String × Node} (member : child ∈ insert key node children) :
    child = (key, node) ∨ child ∈ children := by
  induction children with
  | nil => exact Or.inl (List.mem_singleton.mp member)
  | cons first rest inductionHypothesis =>
    unfold insert at member
    split at member
    · exact List.mem_cons.mp member
    · split at member
      · rcases List.mem_cons.mp member with same | later
        · exact Or.inl same
        · exact Or.inr (List.mem_cons_of_mem _ later)
      · rcases List.mem_cons.mp member with same | later
        · exact Or.inr (same ▸ List.mem_cons_self)
        · rcases inductionHypothesis later with same | inside
          · exact Or.inl same
          · exact Or.inr (List.mem_cons_of_mem _ inside)

/-- Inserting a sound child at a well-formed key keeps a namespace sound. -/
theorem sound_insert {key : String} {node : Node} {children : Namespace}
    (checked : checkSegment key = .ok ()) (soundNode : node.Sound)
    (sound : Sound children) : Sound (insert key node children) := by
  induction children with
  | nil =>
    rw [insert, Sound]
    exact ⟨checked, by simp, soundNode, sound⟩
  | cons first rest inductionHypothesis =>
    obtain ⟨other, held⟩ := first
    have parts := sound
    rw [Sound] at parts
    obtain ⟨checkedOther, ordered, soundHeld, soundRest⟩ := parts
    rw [insert]
    split
    · rename_i before
      rw [Sound]
      refine ⟨checked, ?_, soundNode, sound⟩
      intro child member
      rcases List.mem_cons.mp member with rfl | later
      · exact before
      · exact String.lt_trans before (ordered child later)
    · rename_i notBefore
      split
      · rename_i same
        rw [Sound]
        exact ⟨checked, same ▸ ordered, soundNode, soundRest⟩
      · rename_i different
        rw [Sound]
        refine ⟨checkedOther, ?_, soundHeld, inductionHypothesis soundRest⟩
        intro child member
        rcases eq_or_mem_of_mem_insert member with rfl | inside
        · exact Std.lt_of_le_of_ne (String.not_lt.mp notBefore) (Ne.symm different)
        · exact ordered child inside

end Namespace

/-! ### Entries -/

mutual

/-- The entries at the node and below it, with the keys that lead to them. -/
def Node.leaves : Node → List (List String × LeafEntry)
  | .leaf entry => [([], entry)]
  | .group children => Namespace.leaves children
termination_by structural node => node

/-- The entries of the children one after another. -/
def Namespace.leaves : Namespace → List (List String × LeafEntry)
  | [] => []
  | (key, node) :: rest =>
    node.leaves.map (fun leaf => (key :: leaf.1, leaf.2)) ++ Namespace.leaves rest
termination_by structural children => children

end

mutual

/-- The number of entries at the node and below it. -/
def Node.leafCount : Node → Nat
  | .leaf _ => 1
  | .group children => Namespace.leafCount children
termination_by structural node => node

/-- The number of entries of all children. -/
def Namespace.leafCount : Namespace → Nat
  | [] => 0
  | (_, node) :: rest => node.leafCount + Namespace.leafCount rest
termination_by structural children => children

end

mutual

theorem Node.checkSegment_of_mem_leaves {node : Node} (sound : node.Sound)
    {leaf : List String × LeafEntry} (member : leaf ∈ node.leaves) :
    ∀ segment ∈ leaf.1, checkSegment segment = .ok () := by
  match node with
  | .leaf entry =>
    rw [Node.leaves, List.mem_singleton] at member
    simp [member]
  | .group children =>
    rw [Node.Sound] at sound
    rw [Node.leaves] at member
    exact (Namespace.path_of_mem_leaves sound member).2
termination_by structural node

/-- In a sound namespace the keys that lead to an entry make a path. -/
theorem Namespace.path_of_mem_leaves {children : Namespace}
    (sound : Namespace.Sound children) {leaf : List String × LeafEntry}
    (member : leaf ∈ Namespace.leaves children) :
    leaf.1 ≠ [] ∧ ∀ segment ∈ leaf.1, checkSegment segment = .ok () := by
  match children with
  | [] => simp [Namespace.leaves] at member
  | (key, node) :: rest =>
    rw [Namespace.Sound] at sound
    rw [Namespace.leaves, List.mem_append, List.mem_map] at member
    rcases member with ⟨inner, memberInner, rfl⟩ | later
    · refine ⟨by simp, ?_⟩
      intro segment member
      rcases List.mem_cons.mp member with rfl | below
      · exact sound.1
      · exact Node.checkSegment_of_mem_leaves sound.2.2.1 memberInner segment below
    · exact Namespace.path_of_mem_leaves sound.2.2.2 later
termination_by structural children

end

end Phrasebook
