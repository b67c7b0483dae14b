/-
This file shows that a table holds its document. Going down a document by keys and
going down the table that was made from it keep step: both end at the same time, a
string where there is an entry and an object where there is a namespace, and the
entry is what the string reads as.
-/

import Phrasebook.Proofs.Load.WellFormed
import Phrasebook.Proofs.Table.Enumeration

namespace Phrasebook

/-- The part of a document that a list of keys leads to. -/
def Document.at? : List String → Document → Option Document
  | [], document => some document
  | key :: keys, .object members => (members.lookup key).bind (Document.at? keys)
  | _ :: _, .text _ => none
  | _ :: _, .foreign _ => none

/-! ### Nodes and what they were made from -/

/-- The node was made from the document, wherever this stood. -/
def Node.MadeFrom (options : LoadOptions) (document : Document) (node : Node) : Prop :=
  ∃ path depth, Node.ofDocument options path depth document = .ok node

namespace Node

variable {options : LoadOptions} {document : Document} {node : Node}

theorem MadeFrom.cases (made : MadeFrom options document node) :
    (∃ content entry, document = .text content ∧ node = .leaf entry ∧
      LeafEntry.parse content options.malformedReference = .ok entry) ∨
    ∃ members children path depth, document = .object members ∧ node = .group children ∧
      Namespace.extend options (some path) (depth + 1) [] members = .ok children := by
  obtain ⟨path, depth, read⟩ := made
  match document with
  | .text content =>
    rw [ofDocument] at read
    split at read
    · cases read
    · rename_i entry parsed
      cases read
      exact Or.inl ⟨content, entry, rfl, rfl, parsed⟩
  | .foreign kind =>
    rw [ofDocument] at read
    cases read
  | .object members =>
    obtain ⟨children, loaded, rfl⟩ := ofDocument_object_eq_ok_iff.mp read
    obtain ⟨-, extended⟩ := Namespace.ofMembers_eq_ok_iff.mp loaded
    exact Or.inr ⟨members, children, path, depth, rfl, rfl, extended⟩

/-- An entry is what a string reads as. -/
theorem MadeFrom.eq_leaf_iff (made : MadeFrom options document node) {entry : LeafEntry} :
    node = .leaf entry ↔ ∃ content, document = .text content ∧
      LeafEntry.parse content options.malformedReference = .ok entry := by
  rcases made.cases with ⟨content, held, rfl, rfl, parsed⟩ | ⟨members, children, _, _, rfl, rfl, -⟩
  · simp [parsed]
  · simp

/-- A namespace is what an object makes. -/
theorem MadeFrom.eq_group_iff (made : MadeFrom options document node) :
    (∃ children, node = .group children) ↔ ∃ members, document = .object members := by
  rcases made.cases with ⟨content, held, rfl, rfl, -⟩ | ⟨members, children, _, _, rfl, rfl, -⟩
  · simp
  · simp

end Node

/-! ### Going down -/

/-- After loading, a key that was in the namespace has kept its node, and another key has a node
that was made from the first of its values. -/
theorem Namespace.lookup_extend {options : LoadOptions} {parent : Option KeyPath} {depth : Nat}
    {children extended : Namespace} {members : List (String × Document)}
    (made : extend options parent depth children members = .ok extended) (key : String) :
    (∀ node, children.lookup key = some node → extended.lookup key = some node) ∧
      (children.lookup key = none →
        Option.Rel (Node.MadeFrom options) (members.lookup key) (extended.lookup key)) := by
  induction members generalizing children with
  | nil =>
    rw [extend] at made
    cases made
    exact ⟨fun node found => found, fun absent => absent ▸ Option.Rel.none⟩
  | cons first rest inductionHypothesis =>
    obtain ⟨other, document⟩ := first
    obtain ⟨path, held, -, fresh, read, onward⟩ := extend_cons_eq_ok_iff.mp made
    obtain ⟨kept, added⟩ := inductionHypothesis onward
    rw [lookup_insert] at kept added
    by_cases same : key = other
    · cases same
      rw [if_pos rfl] at kept
      refine ⟨fun node found => ?_, fun _ => ?_⟩
      · rw [fresh] at found
        cases found
      · rw [List.lookup_cons_self, kept held rfl]
        exact Option.Rel.some ⟨path, depth, read⟩
    · rw [if_neg same] at kept added
      rw [List.lookup_cons, beq_eq_false_iff_ne.mpr same]
      exact ⟨kept, added⟩

theorem Namespace.at?_of_extend {options : LoadOptions} {parent : Option KeyPath} {depth : Nat}
    {children : Namespace} {members : List (String × Document)}
    (made : extend options parent depth [] members = .ok children) (key : String)
    {keys : List String}
    (onward : ∀ document node, Node.MadeFrom options document node →
      Option.Rel (Node.MadeFrom options) (document.at? keys) (node.at? keys)) :
    Option.Rel (Node.MadeFrom options) ((Document.object members).at? (key :: keys))
      ((Node.group children).at? (key :: keys)) := by
  have here := (lookup_extend made key).2 rfl
  rw [Document.at?, Node.at?]
  generalize members.lookup key = part, children.lookup key = held at here ⊢
  cases here with
  | none => exact Option.Rel.none
  | some inner => exact onward _ _ inner

/-- Going down a document and going down the node made from it keep step. -/
theorem Node.at?_of_madeFrom {options : LoadOptions} (keys : List String) (document : Document)
    (node : Node) (made : MadeFrom options document node) :
    Option.Rel (MadeFrom options) (document.at? keys) (node.at? keys) := by
  induction keys generalizing document node with
  | nil =>
    rw [Document.at?, at?]
    exact Option.Rel.some made
  | cons key keys inductionHypothesis =>
    rcases made.cases with ⟨content, held, rfl, rfl, -⟩ |
      ⟨members, children, path, depth, rfl, rfl, extended⟩
    · exact Option.Rel.none
    · exact Namespace.at?_of_extend extended key inductionHypothesis

/-! ### Tables and documents -/

namespace Table

variable {options : LoadOptions} {members : List (String × Document)} {table : Table}

theorem ofDocument_object_eq_ok_iff :
    ofDocument options (.object members) = .ok table ↔
      Namespace.ofMembers options none 1 members = .ok table.root := by
  obtain ⟨root, sound⟩ := table
  rw [ofDocument]
  split
  · rename_i fault failed
    simp [failed]
  · rename_i other made
    simp [made]

/-- At each path the table has a node made from the part of the document there, if there is
one. -/
theorem node?_of_ofDocument (made : ofDocument options (.object members) = .ok table)
    (path : KeyPath) :
    Option.Rel (Node.MadeFrom options) ((Document.object members).at? path.segments)
      (table.node? path) := by
  obtain ⟨-, extended⟩ := Namespace.ofMembers_eq_ok_iff.mp (ofDocument_object_eq_ok_iff.mp made)
  obtain ⟨key, keys, segments⟩ := List.exists_cons_of_ne_nil path.nonempty
  rw [node?, segments]
  exact Namespace.at?_of_extend extended key (Node.at?_of_madeFrom keys)

theorem get?_of_ofDocument (made : ofDocument options (.object members) = .ok table)
    (path : KeyPath) (entry : LeafEntry) :
    table.get? path = some entry ↔
      ∃ content, (Document.object members).at? path.segments = some (.text content) ∧
        LeafEntry.parse content options.malformedReference = .ok entry := by
  have step := node?_of_ofDocument made path
  rw [get?_eq_some_iff]
  generalize (Document.object members).at? path.segments = part, table.node? path = held at step ⊢
  cases step with
  | none => simp
  | some inner =>
    rw [Option.some_inj, inner.eq_leaf_iff]
    simp only [Option.some_inj]

theorem namespace?_of_ofDocument (made : ofDocument options (.object members) = .ok table)
    (path : KeyPath) :
    (table.namespace? path).isSome ↔
      ∃ inner, (Document.object members).at? path.segments = some (.object inner) := by
  have step := node?_of_ofDocument made path
  simp only [Option.isSome_iff_exists, namespace?_eq_some_iff]
  generalize (Document.object members).at? path.segments = part, table.node? path = held at step ⊢
  cases step with
  | none => simp
  | some inner =>
    simp only [Option.some_inj]
    exact inner.eq_group_iff

end Table

/-- A document makes a table exactly when it is well-formed, and then the table has an entry
where the document has a string, namely what the string reads as, and a namespace where the
document has an object. -/
theorem Table.ofDocument_correct (options : LoadOptions) (members : List (String × Document)) :
    ((∃ root, Namespace.ofMembers options none 1 members = .ok root) ↔
      (Document.object members).WellFormed options 0) ∧
    ∀ table, Table.ofDocument options (.object members) = .ok table → ∀ path : KeyPath,
      (∀ entry, table.get? path = some entry ↔
        ∃ content, (Document.object members).at? path.segments = some (.text content) ∧
          LeafEntry.parse content options.malformedReference = .ok entry) ∧
      ((table.namespace? path).isSome ↔
        ∃ inner, (Document.object members).at? path.segments = some (.object inner)) := by
  refine ⟨?_, fun table made path => ⟨fun entry => ?_, ?_⟩⟩
  · exact Namespace.exists_ofMembers_iff fun member _ path => Node.exists_ofDocument_iff
  · exact get?_of_ofDocument made path entry
  · exact namespace?_of_ofDocument made path

end Phrasebook
