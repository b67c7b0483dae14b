/-
This file makes tables from documents. A document is walked in its own order, and
the first fault met is the error: for an object its depth, then for each member
its key, whether the object has that key already, and its value. What a document
holds ends up in a sound namespace, whatever the order of its members.
-/

import Phrasebook.Document.Reader
import Phrasebook.Load.Error
import Phrasebook.Load.Options
import Phrasebook.Table.Basic

namespace Phrasebook

/-! ### From documents to namespaces -/

/-- The path of a member of the object at `parent`, or of the root if there is none. -/
def childPath (parent : Option KeyPath) (key : String) : Except LoadError KeyPath :=
  let child := match parent with
    | none => KeyPath.ofSegments [key]
    | some path => path.child key
  match child with
  | .ok path => .ok path
  | .error fault => .error (.malformed parent (.invalidKey key fault))

theorem checkSegment_of_childPath {parent : Option KeyPath} {key : String} {path : KeyPath}
    (found : childPath parent key = .ok path) : checkSegment key = .ok () := by
  have last : key ∈ path.segments := by
    cases parent with
    | none =>
      simp only [childPath, KeyPath.ofSegments] at found
      split at found
      · rename_i child made
        split at made
        · cases made
        · split at made
          · cases made
          · cases found
            cases made
            simp
      · cases found
    | some above =>
      simp only [childPath, KeyPath.child] at found
      split at found
      · rename_i child made
        split at made
        · cases made
        · cases found
          cases made
          simp
      · cases found
  exact path.wellFormed key last

/-- Refuses an object at `path` that lies deeper than the options allow. -/
def checkDepth (options : LoadOptions) (path : Option KeyPath) (depth : Nat) :
    Except LoadError Unit :=
  if options.maxNestingDepth < depth then
    .error (.malformed path (.nestedTooDeep options.maxNestingDepth))
  else .ok ()

mutual

/-- The node that a value makes at a path, inside of this many objects. -/
def Node.ofDocument (options : LoadOptions) (path : KeyPath) (depth : Nat) :
    Document → Except LoadError Node
  | .text content =>
    match LeafEntry.parse content options.malformedReference with
    | .error fault => .error (.malformed (some path) (.invalidTemplate fault))
    | .ok entry => .ok (.leaf entry)
  | .foreign kind => .error (.malformed (some path) (.foreignLeaf kind))
  | .object members =>
    match checkDepth options (some path) (depth + 1) with
    | .error fault => .error fault
    | .ok () =>
      match Namespace.extend options (some path) (depth + 1) [] members with
      | .error fault => .error fault
      | .ok children => .ok (.group children)
termination_by structural document => document

/-- The namespace that members add to one, in the object at `parent`. -/
def Namespace.extend (options : LoadOptions) (parent : Option KeyPath) (depth : Nat)
    (children : Namespace) : List (String × Document) → Except LoadError Namespace
  | [] => .ok children
  | (key, document) :: rest =>
    match childPath parent key with
    | .error fault => .error fault
    | .ok path =>
      if (children.lookup key).isSome then .error (.duplicateKey path)
      else
        match Node.ofDocument options path depth document with
        | .error fault => .error fault
        | .ok node => Namespace.extend options parent depth (children.insert key node) rest
termination_by structural members => members

end

/-- The namespace that the members of the object at `parent` make. -/
def Namespace.ofMembers (options : LoadOptions) (parent : Option KeyPath) (depth : Nat)
    (members : List (String × Document)) : Except LoadError Namespace :=
  match checkDepth options parent depth with
  | .error fault => .error fault
  | .ok () => Namespace.extend options parent depth [] members

/-! ### Soundness of what is loaded -/

mutual

theorem Node.sound_of_ofDocument {options : LoadOptions} {path : KeyPath} {depth : Nat}
    {document : Document} {node : Node}
    (made : Node.ofDocument options path depth document = .ok node) : node.Sound := by
  match document with
  | .text content =>
    simp only [Node.ofDocument] at made
    split at made
    · cases made
    · cases made
      rw [Node.Sound]
      exact True.intro
  | .foreign kind => simp [Node.ofDocument] at made
  | .object members =>
    simp only [Node.ofDocument] at made
    split at made
    · cases made
    · split at made
      · cases made
      · rename_i children extended
        cases made
        rw [Node.Sound]
        exact Namespace.sound_of_extend (by rw [Namespace.Sound]; exact True.intro) extended
termination_by structural document

theorem Namespace.sound_of_extend {options : LoadOptions} {parent : Option KeyPath}
    {depth : Nat} {children extended : Namespace} {members : List (String × Document)}
    (sound : Namespace.Sound children)
    (made : Namespace.extend options parent depth children members = .ok extended) :
    Namespace.Sound extended := by
  match members with
  | [] =>
    simp only [Namespace.extend] at made
    cases made
    exact sound
  | (key, document) :: rest =>
    simp only [Namespace.extend] at made
    split at made
    · cases made
    · rename_i path found
      split at made
      · cases made
      · split at made
        · cases made
        · rename_i node read
          exact Namespace.sound_of_extend
            (Namespace.sound_insert (checkSegment_of_childPath found)
              (Node.sound_of_ofDocument read) sound) made
termination_by structural members

end

theorem Namespace.sound_of_ofMembers {options : LoadOptions} {parent : Option KeyPath}
    {depth : Nat} {children : Namespace} {members : List (String × Document)}
    (made : Namespace.ofMembers options parent depth members = .ok children) :
    Namespace.Sound children := by
  unfold Namespace.ofMembers at made
  split at made
  · cases made
  · exact Namespace.sound_of_extend (by rw [Namespace.Sound]; exact True.intro) made

/-! ### Tables -/

namespace Table

/-- The table that a document makes. Its root has to be an object, the first level of the
nesting. -/
def ofDocument (options : LoadOptions) : Document → Except LoadError Table
  | .object members =>
    match made : Namespace.ofMembers options none 1 members with
    | .error fault => .error fault
    | .ok root => .ok ⟨root, Namespace.sound_of_ofMembers made⟩
  | .text _ => .error (.malformed none .rootIsText)
  | .foreign kind => .error (.malformed none (.rootIsForeign kind))

/-- Refuses a document of this many bytes if it is larger than the options allow. -/
def checkSize (options : LoadOptions) (size : Nat) : Except LoadError Unit :=
  if options.maxDocumentBytes < size then
    .error (.malformed none (.oversized size options.maxDocumentBytes))
  else .ok ()

/-- The table in the bytes of a document. -/
def load (bytes : ByteArray) (options : LoadOptions) : Except LoadError Table :=
  match checkSize options bytes.size with
  | .error fault => .error fault
  | .ok () =>
    match String.fromUTF8? bytes with
    | none => .error (.malformed none .notUtf8)
    | some text =>
      match Document.ofJson text with
      | .error fault => .error (.malformed none (.notJson fault))
      | .ok document => ofDocument options document

end Table

end Phrasebook
