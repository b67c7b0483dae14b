/-
This file says which documents make a table. A well-formed document nests its
objects no deeper than allowed, has a segment at every key and no key twice in one
object, and holds nothing but objects and strings that can be read. Being
well-formed is a matter of each part of the document; loading goes through the
parts one by one, and it succeeds exactly when it finds all of them in order.
-/

import Mathlib.Data.List.Nodup
import Phrasebook.Load.Table
import Phrasebook.Proofs.KeyPath.RoundTrip

namespace Phrasebook

theorem exists_of_isOk {Fault Value : Type} {result : Except Fault Value}
    (succeeds : result.isOk) : ∃ value, result = .ok value := by
  match result, succeeds with
  | .ok value, _ => exact ⟨value, rfl⟩

/-- What is seen of a result that is a success is seen of its value. -/
theorem exists_of_map_eq_ok {Fault Value View : Type} {result : Except Fault Value}
    {view : Value → View} {seen : View} (same : result.map view = .ok seen) :
    ∃ value, result = .ok value ∧ view value = seen := by
  cases result with
  | error fault => cases same
  | ok value => exact ⟨value, rfl, Except.ok.inj same⟩

/-! ### Parts of a document -/

namespace Document

mutual

theorem induction {motive : Document → Prop} (text : ∀ content, motive (.text content))
    (foreign : ∀ kind, motive (.foreign kind))
    (object : ∀ members, (∀ member ∈ members, motive member.2) → motive (.object members))
    (document : Document) : motive document :=
  match document with
  | .text content => text content
  | .foreign kind => foreign kind
  | .object members => object members (inductionBelow text foreign object members)
termination_by structural document

theorem inductionBelow {motive : Document → Prop} (text : ∀ content, motive (.text content))
    (foreign : ∀ kind, motive (.foreign kind))
    (object : ∀ members, (∀ member ∈ members, motive member.2) → motive (.object members))
    (members : List (String × Document)) : ∀ member ∈ members, motive member.2 :=
  match members with
  | [] => fun _ member => nomatch member
  | (_, document) :: rest =>
    List.forall_mem_cons.mpr ⟨induction text foreign object document,
      inductionBelow text foreign object rest⟩
termination_by structural members

end

/-- The part stands in the document, inside of this many of its objects. -/
inductive Occurs (part : Document) : Nat → Document → Prop
  | here : Occurs part 0 part
  | inside {around : Nat} {members : List (String × Document)} {member : String × Document}
      (held : member ∈ members) (deeper : Occurs part around member.2) :
      Occurs part (around + 1) (.object members)

/-- The document, which stands inside of this many objects, has nothing in it that keeps it
from being loaded. -/
structure WellFormed (options : LoadOptions) (outside : Nat) (document : Document) : Prop where
  /-- An object is one level deeper than the number of objects around it. -/
  shallow : ∀ members around, (object members).Occurs around document →
    outside + around + 1 ≤ options.maxNestingDepth
  keyed : ∀ members around, (object members).Occurs around document →
    ∀ member ∈ members, checkSegment member.1 = .ok ()
  distinct : ∀ members around, (object members).Occurs around document →
    (members.map Prod.fst).Nodup
  native : ∀ kind around, ¬(foreign kind).Occurs around document
  readable : ∀ content around, (text content).Occurs around document →
    ∃ entry, LeafEntry.parse content options.malformedReference = .ok entry

variable {options : LoadOptions} {outside : Nat}

theorem wellFormed_text_iff {content : String} :
    (text content).WellFormed options outside ↔
      ∃ entry, LeafEntry.parse content options.malformedReference = .ok entry := by
  constructor
  · intro wellFormed
    exact wellFormed.readable content 0 .here
  · intro readable
    constructor
    · intro members around occurs
      cases occurs
    · intro members around occurs
      cases occurs
    · intro members around occurs
      cases occurs
    · intro kind around occurs
      cases occurs
    · intro other around occurs
      cases occurs
      exact readable

theorem not_wellFormed_foreign {kind : ForeignKind} :
    ¬(foreign kind).WellFormed options outside :=
  fun wellFormed => wellFormed.native kind 0 .here

theorem WellFormed.member {members : List (String × Document)}
    (wellFormed : (object members).WellFormed options outside) {member : String × Document}
    (held : member ∈ members) : member.2.WellFormed options (outside + 1) where
  shallow := by
    intro inner around occurs
    have bound := wellFormed.shallow inner (around + 1) (.inside held occurs)
    omega
  keyed inner around occurs := wellFormed.keyed inner (around + 1) (.inside held occurs)
  distinct inner around occurs := wellFormed.distinct inner (around + 1) (.inside held occurs)
  native kind around occurs := wellFormed.native kind (around + 1) (.inside held occurs)
  readable content around occurs :=
    wellFormed.readable content (around + 1) (.inside held occurs)

/-- An object is well-formed when it is not too deep, its keys are distinct segments, and what
it holds is well-formed one level deeper. -/
theorem wellFormed_object_iff {members : List (String × Document)} :
    (object members).WellFormed options outside ↔
      outside + 1 ≤ options.maxNestingDepth ∧ (members.map Prod.fst).Nodup ∧
        ∀ member ∈ members,
          checkSegment member.1 = .ok () ∧ member.2.WellFormed options (outside + 1) := by
  constructor
  · intro wellFormed
    refine ⟨wellFormed.shallow members 0 .here, wellFormed.distinct members 0 .here, ?_⟩
    intro member held
    exact ⟨wellFormed.keyed members 0 .here member held, wellFormed.member held⟩
  · rintro ⟨shallow, distinct, each⟩
    constructor
    · intro inner around occurs
      cases occurs with
      | here => exact shallow
      | inside held deeper =>
        have bound := (each _ held).2.shallow inner _ deeper
        omega
    · intro inner around occurs
      cases occurs with
      | here => exact fun member held => (each member held).1
      | inside held deeper => exact (each _ held).2.keyed inner _ deeper
    · intro inner around occurs
      cases occurs with
      | here => exact distinct
      | inside held deeper => exact (each _ held).2.distinct inner _ deeper
    · intro kind around occurs
      cases occurs with
      | inside held deeper => exact (each _ held).2.native kind _ deeper
    · intro content around occurs
      cases occurs with
      | inside held deeper => exact (each _ held).2.readable content _ deeper

end Document

/-! ### Steps of loading -/

/-- A key that makes no path is no segment, and the error has the path above it. -/
theorem exists_of_childPath_eq_error {parent : Option KeyPath} {key : String} {fault : LoadError}
    (failed : childPath parent key = .error fault) :
    ∃ cause, checkSegment key = .error cause ∧
      fault = .malformed parent (.invalidKey key cause) := by
  cases parent with
  | none =>
    simp only [childPath] at failed
    split at failed
    · cases failed
    · rename_i cause refused
      cases failed
      exact ⟨cause, KeyPath.checkSegment_of_ofSegments_eq_error refused, rfl⟩
  | some above =>
    simp only [childPath] at failed
    split at failed
    · cases failed
    · rename_i cause refused
      cases failed
      exact ⟨cause, KeyPath.checkSegment_of_child_eq_error refused, rfl⟩

/-- A key makes a path below any parent exactly when it is a segment. -/
theorem exists_childPath_iff {parent : Option KeyPath} {key : String} :
    (∃ path, childPath parent key = .ok path) ↔ checkSegment key = .ok () := by
  constructor
  · rintro ⟨path, found⟩
    exact checkSegment_of_childPath found
  · intro checked
    cases found : childPath parent key with
    | ok path => exact ⟨path, rfl⟩
    | error fault =>
      obtain ⟨cause, refused, -⟩ := exists_of_childPath_eq_error found
      cases checked.symm.trans refused

theorem checkDepth_eq_ok_iff {options : LoadOptions} {path : Option KeyPath} {depth : Nat} :
    checkDepth options path depth = .ok () ↔ depth ≤ options.maxNestingDepth := by
  unfold checkDepth
  split
  · rename_i deep
    simp [deep]
  · rename_i shallow
    simp [Nat.not_lt.mp shallow]

namespace Namespace

theorem lookup_cons_eq_ite (key other : String) (node : Node) (rest : Namespace) :
    List.lookup other ((key, node) :: rest) =
      if other = key then some node else rest.lookup other := by
  rw [List.lookup_cons]
  by_cases same : other = key
  · rw [if_pos same, beq_iff_eq.mpr same]
  · rw [if_neg same, beq_eq_false_iff_ne.mpr same]

theorem lookup_insert (children : Namespace) (key other : String) (node : Node) :
    (children.insert key node).lookup other =
      if other = key then some node else children.lookup other := by
  induction children with
  | nil => exact lookup_cons_eq_ite key other node []
  | cons first rest inductionHypothesis =>
    obtain ⟨held, old⟩ := first
    rw [insert]
    split
    · exact lookup_cons_eq_ite key other node _
    · split
      · rename_i same
        cases same
        rw [lookup_cons_eq_ite, lookup_cons_eq_ite]
        split <;> rfl
      · rename_i different
        rw [lookup_cons_eq_ite, lookup_cons_eq_ite, inductionHypothesis]
        by_cases same : other = held
        · rw [if_pos same, if_pos same, if_neg]
          exact fun equal => different (equal ▸ same)
        · rw [if_neg same, if_neg same]

/-- Loading a member adds the node of its value at its key, which has to be new. -/
theorem extend_cons_eq_ok_iff {options : LoadOptions} {parent : Option KeyPath} {depth : Nat}
    {children extended : Namespace} {key : String} {document : Document}
    {rest : List (String × Document)} :
    extend options parent depth children ((key, document) :: rest) = .ok extended ↔
      ∃ path node, childPath parent key = .ok path ∧ children.lookup key = none ∧
        Node.ofDocument options path depth document = .ok node ∧
        extend options parent depth (children.insert key node) rest = .ok extended := by
  rw [extend]
  cases found : childPath parent key with
  | error fault => simp
  | ok path =>
    cases held : children.lookup key with
    | some node => simp
    | none =>
      cases made : Node.ofDocument options path depth document with
      | error fault => simp [made]
      | ok node => simp [made]

/-- Members are added to a namespace when none of their keys is in it, the keys are distinct
segments, and each value makes a node. -/
theorem exists_extend_iff {options : LoadOptions} {parent : Option KeyPath} {depth : Nat}
    {children : Namespace} {members : List (String × Document)}
    (each : ∀ member ∈ members, ∀ path,
      (∃ node, Node.ofDocument options path depth member.2 = .ok node) ↔
        member.2.WellFormed options depth) :
    (∃ extended, extend options parent depth children members = .ok extended) ↔
      (members.map Prod.fst).Nodup ∧ ∀ member ∈ members, checkSegment member.1 = .ok () ∧
        member.2.WellFormed options depth ∧ children.lookup member.1 = none := by
  induction members generalizing children with
  | nil => simp [extend]
  | cons first rest inductionHypothesis =>
    obtain ⟨key, document⟩ := first
    obtain ⟨here, later⟩ := List.forall_mem_cons.mp each
    rw [List.forall_mem_cons, List.map_cons, List.nodup_cons]
    constructor
    · rintro ⟨extended, made⟩
      obtain ⟨path, node, found, absent, read, onward⟩ := extend_cons_eq_ok_iff.mp made
      obtain ⟨distinct, others⟩ := (inductionHypothesis later).mp ⟨extended, onward⟩
      have other : ∀ member ∈ rest, member.1 ≠ key ∧ children.lookup member.1 = none := by
        intro member held
        have missing := (others member held).2.2
        rw [lookup_insert] at missing
        split at missing
        · cases missing
        · rename_i different
          exact ⟨different, missing⟩
      refine ⟨⟨?_, distinct⟩, ⟨checkSegment_of_childPath found, (here path).mp ⟨node, read⟩,
        absent⟩, ?_⟩
      · intro repeated
        obtain ⟨member, held, same⟩ := List.mem_map.mp repeated
        exact (other member held).1 same
      · intro member held
        exact ⟨(others member held).1, (others member held).2.1, (other member held).2⟩
    · rintro ⟨⟨fresh, distinct⟩, ⟨checked, wellFormed, absent⟩, others⟩
      obtain ⟨path, found⟩ := exists_childPath_iff.mpr checked
      obtain ⟨node, read⟩ := (here path).mpr wellFormed
      have onward : ∃ extended,
          extend options parent depth (children.insert key node) rest = .ok extended := by
        refine (inductionHypothesis later).mpr ⟨distinct, fun member held => ?_⟩
        obtain ⟨checkedOther, wellFormedOther, absentOther⟩ := others member held
        have different : member.1 ≠ key := by
          intro same
          exact fresh (List.mem_map.mpr ⟨member, held, same⟩)
        refine ⟨checkedOther, wellFormedOther, ?_⟩
        rw [lookup_insert, if_neg different]
        exact absentOther
      obtain ⟨extended, onward⟩ := onward
      exact ⟨extended, extend_cons_eq_ok_iff.mpr ⟨path, node, found, absent, read, onward⟩⟩

theorem ofMembers_eq_ok_iff {options : LoadOptions} {parent : Option KeyPath} {depth : Nat}
    {children : Namespace} {members : List (String × Document)} :
    ofMembers options parent depth members = .ok children ↔
      depth ≤ options.maxNestingDepth ∧
        extend options parent depth [] members = .ok children := by
  rw [ofMembers, ← checkDepth_eq_ok_iff]
  cases checkDepth options parent depth <;> simp

/-- Members make a namespace when their depth is allowed, their keys are distinct segments, and
each value makes a node. -/
theorem exists_ofMembers_iff {options : LoadOptions} {parent : Option KeyPath} {depth : Nat}
    {members : List (String × Document)}
    (each : ∀ member ∈ members, ∀ path,
      (∃ node, Node.ofDocument options path (depth + 1) member.2 = .ok node) ↔
        member.2.WellFormed options (depth + 1)) :
    (∃ children, ofMembers options parent (depth + 1) members = .ok children) ↔
      (Document.object members).WellFormed options depth := by
  simp only [ofMembers_eq_ok_iff, exists_and_left]
  rw [exists_extend_iff each, Document.wellFormed_object_iff]
  simp

end Namespace

/-! ### Acceptance -/

theorem Node.ofDocument_object (options : LoadOptions) (path : KeyPath) (depth : Nat)
    (members : List (String × Document)) :
    Node.ofDocument options path depth (.object members) =
      (Namespace.ofMembers options (some path) (depth + 1) members).map .group := by
  rw [ofDocument, Namespace.ofMembers]
  cases checkDepth options (some path) (depth + 1) with
  | error fault => rfl
  | ok done => cases Namespace.extend options (some path) (depth + 1) [] members <;> rfl

theorem Node.ofDocument_object_eq_ok_iff {options : LoadOptions} {path : KeyPath} {depth : Nat}
    {members : List (String × Document)} {node : Node} :
    Node.ofDocument options path depth (.object members) = .ok node ↔
      ∃ children, Namespace.ofMembers options (some path) (depth + 1) members = .ok children ∧
        node = .group children := by
  rw [ofDocument_object]
  cases Namespace.ofMembers options (some path) (depth + 1) members with
  | error fault => simp [Except.map]
  | ok children => simp [Except.map, eq_comm]

/-- A value makes a node exactly when it is well-formed. -/
theorem Node.exists_ofDocument_iff {options : LoadOptions} {path : KeyPath} {depth : Nat}
    {document : Document} :
    (∃ node, Node.ofDocument options path depth document = .ok node) ↔
      document.WellFormed options depth := by
  induction document using Document.induction generalizing path depth with
  | text content =>
    rw [Document.wellFormed_text_iff, ofDocument]
    cases LeafEntry.parse content options.malformedReference <;> simp
  | foreign kind => simp [ofDocument, Document.not_wellFormed_foreign]
  | object members inductionHypothesis =>
    have inner : (∃ children, Namespace.ofMembers options (some path) (depth + 1) members =
        .ok children) ↔ _ :=
      Namespace.exists_ofMembers_iff fun member held path => inductionHypothesis member held
    rw [← inner]
    constructor
    · rintro ⟨node, made⟩
      obtain ⟨children, read, -⟩ := ofDocument_object_eq_ok_iff.mp made
      exact ⟨children, read⟩
    · rintro ⟨children, read⟩
      exact ⟨.group children, ofDocument_object_eq_ok_iff.mpr ⟨children, read, rfl⟩⟩

end Phrasebook
