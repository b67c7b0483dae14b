/-
This file defines unfoldings, what a key stands for when every reference is
followed. The unfolding of a key is a tree: its root is the key with its entry,
and below it are the unfoldings of the keys that the entry refers to, in their
order. It says nothing of limits and nothing of a walk. A key has at most one
unfolding, and it has one exactly when no way along references from it is endless
or ends at a key without an entry; in particular no key lies below itself.
-/

import Mathlib.Data.List.Forall2
import Mathlib.Logic.Relation
import Phrasebook.Proofs.Resolve.Fragments
import Phrasebook.Resolve.Resolver

namespace Phrasebook

/-! ### References -/

namespace LeafEntry

/-- An entry as segments: a redirect is a single reference. -/
def segments : LeafEntry → List Segment
  | .literal template => template.segments
  | .redirect target => [.reference target]

/-- The keys that an entry refers to, in order, repeated ones kept. -/
def targets : LeafEntry → List KeyPath
  | .literal template => template.references
  | .redirect target => [target]

end LeafEntry

namespace Segment

/-- The keys that segments refer to. -/
def targets : List Segment → List KeyPath
  | [] => []
  | .text _ :: rest => targets rest
  | .placeholder _ :: rest => targets rest
  | .reference target :: rest => target :: targets rest

theorem targets_ofFragment (fragment : Fragment) (rest : List Segment) :
    targets (.ofFragment fragment :: rest) = targets rest := by
  cases fragment <;> rfl

end Segment

theorem Template.references_eq (template : Template) :
    template.references = Segment.targets template.segments := by
  unfold references
  induction template.segments with
  | nil => rfl
  | cons segment rest inductionHypothesis =>
    cases segment with
    | text content => exact inductionHypothesis
    | placeholder name => exact inductionHypothesis
    | reference target => exact congrArg (target :: ·) inductionHypothesis

theorem LeafEntry.targets_eq (entry : LeafEntry) :
    entry.targets = Segment.targets entry.segments := by
  cases entry with
  | redirect target => rfl
  | literal template => exact template.references_eq

namespace Resolver

/-- The entry at `key` refers to `target`. -/
def Refers (resolver : Resolver) (key target : KeyPath) : Prop :=
  ∃ entry, resolver.lookup key = some entry ∧ target ∈ entry.targets

/-- Some way along references leads from one key to another, if only the way of no step. -/
def Reaches (resolver : Resolver) : KeyPath → KeyPath → Prop :=
  Relation.ReflTransGen resolver.Refers

/-- The redirects from `key` end at `origin`, where there is a template. -/
inductive RedirectsTo (resolver : Resolver) : KeyPath → KeyPath → Prop
  | here {key : KeyPath} {template : Template}
      (found : resolver.lookup key = some (.literal template)) : RedirectsTo resolver key key
  | next {key target origin : KeyPath} (found : resolver.lookup key = some (.redirect target))
      (onward : RedirectsTo resolver target origin) : RedirectsTo resolver key origin

theorem RedirectsTo.unique {resolver : Resolver} {key first second : KeyPath}
    (one : resolver.RedirectsTo key first) (other : resolver.RedirectsTo key second) :
    first = second := by
  induction one with
  | here found =>
    cases other with
    | here => rfl
    | next foundOther =>
      rw [found] at foundOther
      cases foundOther
  | next found _ inductionHypothesis =>
    cases other with
    | here foundOther =>
      rw [found] at foundOther
      cases foundOther
    | next foundOther onward =>
      rw [found] at foundOther
      cases foundOther
      exact inductionHypothesis onward

end Resolver

/-! ### Trees of entries -/

/-- A key with its entry and, below it, more of the same. -/
inductive Unfolding
  | node (key : KeyPath) (entry : LeafEntry) (children : List Unfolding)

/-- Puts what references expand to in the places of the references. -/
def weave : List Segment → List (List Fragment) → List Fragment
  | [], _ => []
  | .text content :: rest, inner => .text content :: weave rest inner
  | .placeholder name :: rest, inner => .placeholder name :: weave rest inner
  | .reference _ :: rest, [] => weave rest []
  | .reference _ :: rest, first :: inner => first ++ weave rest inner

theorem weave_ofFragment (fragment : Fragment) (rest : List Segment)
    (inner : List (List Fragment)) :
    weave (.ofFragment fragment :: rest) inner = fragment :: weave rest inner := by
  cases fragment <;> rfl

namespace Unfolding

mutual

/-- The keys of the tree from top to bottom and from left to right, each as often as it
occurs. -/
def keys : Unfolding → List KeyPath
  | .node key _ children => key :: keysOfAll children
termination_by structural tree => tree

/-- The keys of several trees one after another. -/
def keysOfAll : List Unfolding → List KeyPath
  | [] => []
  | first :: rest => first.keys ++ keysOfAll rest
termination_by structural trees => trees

end

mutual

/-- The number of edges on the longest way down. -/
def height : Unfolding → Nat
  | .node _ _ children => heightBelow children
termination_by structural tree => tree

/-- The height of a node with these trees below it. -/
def heightBelow : List Unfolding → Nat
  | [] => 0
  | first :: rest => max (first.height + 1) (heightBelow rest)
termination_by structural trees => trees

end

mutual

/-- The texts and placeholders of the tree from left to right. -/
def fragments : Unfolding → List Fragment
  | .node _ entry children => weave entry.segments (fragmentsOfEach children)
termination_by structural tree => tree

/-- The texts and placeholders of each of several trees. -/
def fragmentsOfEach : List Unfolding → List (List Fragment)
  | [] => []
  | first :: rest => first.fragments :: fragmentsOfEach rest
termination_by structural trees => trees

end

/-- The number of nodes. -/
def size (tree : Unfolding) : Nat :=
  tree.keys.length

/-- The number of bytes of all texts and placeholder names together. -/
def bytes (tree : Unfolding) : Nat :=
  Fragment.totalBytes tree.fragments

mutual

theorem induction {motive : Unfolding → Prop}
    (node : ∀ key entry children, (∀ child ∈ children, motive child) →
      motive (.node key entry children)) (tree : Unfolding) : motive tree :=
  match tree with
  | .node key entry children => node key entry children (inductionBelow node children)
termination_by structural tree

theorem inductionBelow {motive : Unfolding → Prop}
    (node : ∀ key entry children, (∀ child ∈ children, motive child) →
      motive (.node key entry children)) (trees : List Unfolding) :
    ∀ child ∈ trees, motive child :=
  match trees with
  | [] => fun _ member => nomatch member
  | first :: rest => List.forall_mem_cons.mpr ⟨induction node first, inductionBelow node rest⟩
termination_by structural trees

end

theorem mem_keysOfAll {key : KeyPath} {trees : List Unfolding} :
    key ∈ keysOfAll trees ↔ ∃ tree ∈ trees, key ∈ tree.keys := by
  induction trees with
  | nil => simp [keysOfAll]
  | cons first rest inductionHypothesis =>
    rw [keysOfAll, List.mem_append, inductionHypothesis, List.exists_mem_cons_iff]

theorem size_le_of_mem {child : Unfolding} {trees : List Unfolding} (member : child ∈ trees) :
    child.size ≤ (keysOfAll trees).length := by
  induction trees with
  | nil => cases member
  | cons first rest inductionHypothesis =>
    rw [keysOfAll, List.length_append]
    rcases List.mem_cons.mp member with rfl | later
    · exact Nat.le_add_right _ _
    · exact (inductionHypothesis later).trans (Nat.le_add_left _ _)

theorem heightBelow_le_iff {trees : List Unfolding} {bound : Nat} :
    heightBelow trees ≤ bound ↔ ∀ child ∈ trees, child.height + 1 ≤ bound := by
  induction trees with
  | nil => simp [heightBelow]
  | cons first rest inductionHypothesis =>
    rw [heightBelow, Nat.max_le, inductionHypothesis, List.forall_mem_cons]

/-- A redirect says what its target says. -/
theorem fragments_redirect (holder target : KeyPath) (child : Unfolding) :
    (node holder (.redirect target) [child]).fragments = child.fragments :=
  List.append_nil _

end Unfolding

/-! ### The unfolding of a key -/

namespace Resolver

/-- The tree is the unfolding of the key. -/
inductive Unfolds (resolver : Resolver) : KeyPath → Unfolding → Prop
  | node {key : KeyPath} {entry : LeafEntry} {children : List Unfolding}
      (found : resolver.lookup key = some entry)
      (below : List.Forall₂ (Unfolds resolver) entry.targets children) :
      Unfolds resolver key (.node key entry children)

variable {resolver : Resolver}

theorem exists_unfolds_of_mem {targets : List KeyPath} {trees : List Unfolding}
    (below : List.Forall₂ resolver.Unfolds targets trees) {tree : Unfolding}
    (member : tree ∈ trees) : ∃ target ∈ targets, resolver.Unfolds target tree := by
  induction below with
  | nil => cases member
  | cons first _ inductionHypothesis =>
    rcases List.mem_cons.mp member with rfl | later
    · exact ⟨_, List.mem_cons_self, first⟩
    · obtain ⟨target, targetMember, unfolds⟩ := inductionHypothesis later
      exact ⟨target, List.mem_cons_of_mem _ targetMember, unfolds⟩

theorem exists_unfolds_of_target {targets : List KeyPath} {trees : List Unfolding}
    (below : List.Forall₂ resolver.Unfolds targets trees) {target : KeyPath}
    (member : target ∈ targets) : ∃ tree ∈ trees, resolver.Unfolds target tree := by
  induction below with
  | nil => cases member
  | cons first _ inductionHypothesis =>
    rcases List.mem_cons.mp member with rfl | later
    · exact ⟨_, List.mem_cons_self, first⟩
    · obtain ⟨tree, treeMember, unfolds⟩ := inductionHypothesis later
      exact ⟨tree, List.mem_cons_of_mem _ treeMember, unfolds⟩

theorem exists_forall₂_unfolds {targets : List KeyPath}
    (each : ∀ target ∈ targets, ∃ tree, resolver.Unfolds target tree) :
    ∃ trees, List.Forall₂ resolver.Unfolds targets trees := by
  induction targets with
  | nil => exact ⟨[], .nil⟩
  | cons target rest inductionHypothesis =>
    rw [List.forall_mem_cons] at each
    obtain ⟨tree, unfolds⟩ := each.1
    obtain ⟨trees, below⟩ := inductionHypothesis each.2
    exact ⟨tree :: trees, .cons unfolds below⟩

theorem eq_of_forall₂_unfolds {targets : List KeyPath} {trees others : List Unfolding}
    (unique : ∀ tree ∈ trees, ∀ key other,
      resolver.Unfolds key tree → resolver.Unfolds key other → tree = other)
    (ones : List.Forall₂ resolver.Unfolds targets trees)
    (another : List.Forall₂ resolver.Unfolds targets others) : trees = others := by
  induction ones generalizing others with
  | nil =>
    cases another
    rfl
  | cons first _ inductionHypothesis =>
    cases another with
    | cons firstOther restOther =>
      rw [unique _ List.mem_cons_self _ _ first firstOther,
        inductionHypothesis (fun tree later => unique tree (List.mem_cons_of_mem _ later))
          restOther]

/-- A key has at most one unfolding. -/
theorem Unfolds.unique {key : KeyPath} {tree other : Unfolding}
    (one : resolver.Unfolds key tree) (another : resolver.Unfolds key other) : tree = other := by
  induction tree using Unfolding.induction generalizing key other with
  | node root entry children inductionHypothesis =>
    obtain ⟨found, below⟩ := one
    obtain ⟨foundOther, belowOther⟩ := another
    rw [found] at foundOther
    cases foundOther
    rw [eq_of_forall₂_unfolds
      (fun child member _ _ first second => inductionHypothesis child member first second)
      below belowOther]

/-- A key in an unfolding has an unfolding itself, which is no larger. -/
theorem Unfolds.exists_of_mem_keys {key inner : KeyPath} {tree : Unfolding}
    (unfolds : resolver.Unfolds key tree) (member : inner ∈ tree.keys) :
    ∃ part, resolver.Unfolds inner part ∧ part.size ≤ tree.size := by
  induction tree using Unfolding.induction generalizing key with
  | node root entry children inductionHypothesis =>
    have whole := unfolds
    obtain ⟨found, below⟩ := unfolds
    rcases List.mem_cons.mp member with rfl | inside
    · exact ⟨_, whole, le_rfl⟩
    · obtain ⟨child, childMember, innerMember⟩ := Unfolding.mem_keysOfAll.mp inside
      obtain ⟨target, -, childUnfolds⟩ := exists_unfolds_of_mem below childMember
      obtain ⟨part, partUnfolds, smaller⟩ :=
        inductionHypothesis child childMember childUnfolds innerMember
      refine ⟨part, partUnfolds, smaller.trans ?_⟩
      exact (Unfolding.size_le_of_mem childMember).trans (Nat.le_succ _)

/-- No key lies below itself: its unfolding would be a proper part of itself. -/
theorem Unfolds.not_mem_keys_of_mem {key : KeyPath} {entry : LeafEntry}
    {children : List Unfolding} (unfolds : resolver.Unfolds key (.node key entry children))
    {child : Unfolding} (member : child ∈ children) : key ∉ child.keys := by
  intro inside
  have whole := unfolds
  obtain ⟨-, below⟩ := unfolds
  obtain ⟨target, -, childUnfolds⟩ := exists_unfolds_of_mem below member
  obtain ⟨part, partUnfolds, smaller⟩ := childUnfolds.exists_of_mem_keys inside
  rw [partUnfolds.unique whole] at smaller
  have larger : child.size < (Unfolding.node key entry children).size :=
    Nat.lt_succ_of_le (Unfolding.size_le_of_mem member)
  exact absurd smaller (Nat.not_le.mpr larger)

/-! ### Which keys unfold -/

theorem Unfolds.exists_of_refers {key target : KeyPath} {entry : LeafEntry}
    {children : List Unfolding} (unfolds : resolver.Unfolds key (.node key entry children))
    (refers : resolver.Refers key target) :
    ∃ child ∈ children, resolver.Unfolds target child := by
  obtain ⟨found, below⟩ := unfolds
  obtain ⟨other, foundOther, member⟩ := refers
  rw [found] at foundOther
  cases foundOther
  exact exists_unfolds_of_target below member

theorem Unfolds.acc {key : KeyPath} {tree : Unfolding} (unfolds : resolver.Unfolds key tree) :
    Acc (fun target holder => resolver.Refers holder target) key := by
  induction tree using Unfolding.induction generalizing key with
  | node root entry children inductionHypothesis =>
    cases unfolds with
    | node found below =>
      refine Acc.intro _ fun target refers => ?_
      obtain ⟨child, member, childUnfolds⟩ :=
        (Unfolds.node found below).exists_of_refers refers
      exact inductionHypothesis child member childUnfolds

theorem Unfolds.isSome_of_reaches {key other : KeyPath} {tree : Unfolding}
    (unfolds : resolver.Unfolds key tree) (reaches : resolver.Reaches key other) :
    (resolver.lookup other).isSome := by
  induction reaches using Relation.ReflTransGen.head_induction_on generalizing tree with
  | refl =>
    obtain ⟨found, -⟩ := unfolds
    rw [found]
    rfl
  | head refers _ inductionHypothesis =>
    cases unfolds with
    | node found below =>
      obtain ⟨child, -, childUnfolds⟩ := (Unfolds.node found below).exists_of_refers refers
      exact inductionHypothesis childUnfolds

/-- A key has an unfolding exactly when no way along references from it is endless and each
ends at an entry without references. -/
theorem exists_unfolds_iff {key : KeyPath} :
    (∃ tree, resolver.Unfolds key tree) ↔
      Acc (fun target holder => resolver.Refers holder target) key ∧
        ∀ other, resolver.Reaches key other → (resolver.lookup other).isSome := by
  constructor
  · rintro ⟨tree, unfolds⟩
    exact ⟨unfolds.acc, fun other reaches => unfolds.isSome_of_reaches reaches⟩
  · rintro ⟨grounded, found⟩
    induction grounded with
    | intro key _ inductionHypothesis =>
      obtain ⟨entry, foundEntry⟩ := Option.isSome_iff_exists.mp (found key .refl)
      have each : ∀ target ∈ entry.targets, ∃ tree, resolver.Unfolds target tree := by
        intro target member
        have refers : resolver.Refers key target := ⟨entry, foundEntry, member⟩
        exact inductionHypothesis target refers fun other reaches =>
          found other (Relation.ReflTransGen.head refers reaches)
      obtain ⟨trees, below⟩ := exists_forall₂_unfolds each
      exact ⟨_, .node foundEntry below⟩

/-! ### Redirects -/

section

variable {holder target : KeyPath}

/-- The unfolding of a redirect is that of its target with one node on top. -/
theorem unfolds_iff_of_redirect {tree : Unfolding}
    (found : resolver.lookup holder = some (.redirect target)) :
    resolver.Unfolds holder tree ↔
      ∃ child, resolver.Unfolds target child ∧ tree = .node holder (.redirect target) [child] := by
  constructor
  · rintro ⟨foundEntry, below⟩
    rw [found] at foundEntry
    cases foundEntry
    obtain _ | ⟨first, none⟩ := below
    cases none
    exact ⟨_, first, rfl⟩
  · rintro ⟨child, unfolds, rfl⟩
    exact .node found (.cons unfolds .nil)

theorem redirectsTo_iff_of_redirect {origin : KeyPath}
    (found : resolver.lookup holder = some (.redirect target)) :
    resolver.RedirectsTo holder origin ↔ resolver.RedirectsTo target origin := by
  constructor
  · intro redirects
    cases redirects with
    | here foundEntry =>
      rw [found] at foundEntry
      cases foundEntry
    | next foundEntry onward =>
      rw [found] at foundEntry
      cases foundEntry
      exact onward
  · exact .next found

end

end Resolver

end Phrasebook
