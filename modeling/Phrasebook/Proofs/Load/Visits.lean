/-
This file lists what loading has to look at, in the order of the document. An object is
looked at for its depth, and then come its members: each for its key, for whether its object
has that key already, and for its value. Where a member stands is told by its key and by the
members before it, and so on outwards. Taken together with nothing behind them, these make a
document again, the document cut off just before the member. What is looked at in it is what
was looked at in the whole document before the member was reached.
-/

import Phrasebook.Load.Table

namespace Phrasebook.Document

/-! ### Positions -/

/-- A member of an object, by its key and by the members before it. -/
structure Frame where
  before : List (String × Document)
  key : String

/-- Where something stands in a document: the members that it is inside of, the innermost
first. -/
abbrev Position : Type := List Frame

namespace Position

/-- The keys that lead there, the outermost first. -/
def keys (position : Position) : List String :=
  (position.map Frame.key).reverse

/-- The members of the root, up to an object that has these members itself. -/
def rebuild : Position → List (String × Document) → List (String × Document)
  | [], members => members
  | frame :: above, members => rebuild above (frame.before ++ [(frame.key, .object members)])

/-- The members of the root, up to the member that stands there. -/
def cut : Position → List (String × Document)
  | [] => []
  | frame :: above => rebuild above frame.before

theorem keys_cons (frame : Frame) (above : Position) :
    keys (frame :: above) = keys above ++ [frame.key] := by
  rw [keys, List.map_cons, List.reverse_cons, keys]

end Position

/-- The part stands in the document at the position. -/
inductive Stands (document : Document) : Position → Document → Prop
  | here : Stands document [] document
  | inside {above : Position} {before after : List (String × Document)} {key : String}
      {part : Document}
      (around : Stands document above (.object (before ++ (key, part) :: after))) :
      Stands document (⟨before, key⟩ :: above) part

/-! ### Visits -/

/-- Something that loading looks at. -/
inductive Visit
  /-- The depth of an object. -/
  | object (position : Position)
  /-- The key of a member. -/
  | key (frame : Frame) (above : Position)
  /-- Whether the key of a member is repeated. -/
  | repetition (frame : Frame) (above : Position)
  /-- A string. -/
  | text (position : Position) (content : String)
  /-- A value that is neither an object nor a string. -/
  | foreign (position : Position) (kind : ForeignKind)

/-- Where the object, the member or the value stands. -/
def Visit.position : Visit → Position
  | .object position => position
  | .key frame above => frame :: above
  | .repetition frame above => frame :: above
  | .text position _ => position
  | .foreign position _ => position

mutual

/-- The visits of a document that stands at a position. -/
def visits (position : Position) : Document → List Visit
  | .text content => [.text position content]
  | .foreign kind => [.foreign position kind]
  | .object members => .object position :: visitsOfMembers position [] members
termination_by structural document => document

/-- The visits of members behind earlier ones, in the object at a position. -/
def visitsOfMembers (position : Position) (before : List (String × Document)) :
    List (String × Document) → List Visit
  | [] => []
  | (key, document) :: rest =>
    .key ⟨before, key⟩ position :: .repetition ⟨before, key⟩ position ::
      (document.visits (⟨before, key⟩ :: position) ++
        visitsOfMembers position (before ++ [(key, document)]) rest)
termination_by structural members => members

end

/-- The visits of members come one after another. -/
theorem visitsOfMembers_append (position : Position)
    (before first second : List (String × Document)) :
    visitsOfMembers position before (first ++ second) =
      visitsOfMembers position before first ++
        visitsOfMembers position (before ++ first) second := by
  induction first generalizing before with
  | nil => rw [List.nil_append, List.append_nil, visitsOfMembers, List.nil_append]
  | cons member rest inductionHypothesis =>
    obtain ⟨key, document⟩ := member
    rw [List.cons_append, visitsOfMembers, visitsOfMembers, inductionHypothesis]
    simp only [List.cons_append, List.append_assoc, List.nil_append]

theorem visitsOfMembers_singleton (position : Position) (before : List (String × Document))
    (key : String) (document : Document) :
    visitsOfMembers position before [(key, document)] =
      .key ⟨before, key⟩ position :: .repetition ⟨before, key⟩ position ::
        document.visits (⟨before, key⟩ :: position) := by
  rw [visitsOfMembers, visitsOfMembers, List.append_nil]

/-! ### What comes before -/

/-- The visits before those of what stands at a position. -/
def Position.visitsBefore : Position → List Visit
  | [] => []
  | frame :: above =>
    (object (cut (frame :: above))).visits [] ++ [.key frame above, .repetition frame above]

/-- The visits before this one. -/
def Visit.earlier : Visit → List Visit
  | .object position => position.visitsBefore
  | .key frame above => (Document.object (Position.cut (frame :: above))).visits []
  | .repetition frame above =>
    (Document.object (Position.cut (frame :: above))).visits [] ++ [.key frame above]
  | .text position _ => position.visitsBefore
  | .foreign position _ => position.visitsBefore

/-- With members put in place of what stands at a position, the visits there come last. -/
theorem visits_rebuild (position : Position) (members : List (String × Document)) :
    (object (position.rebuild members)).visits [] =
      position.visitsBefore ++ (object members).visits position := by
  induction position generalizing members with
  | nil => rfl
  | cons frame above inductionHypothesis =>
    rw [Position.rebuild, inductionHypothesis, Position.visitsBefore, Position.cut,
      inductionHypothesis, visits, visits, visitsOfMembers_append, List.nil_append,
      visitsOfMembers_singleton]
    simp only [List.append_assoc, List.cons_append, List.nil_append]

/-- Each of the visits comes right behind those that are before it, when these have been
made. -/
def Successive (made : List Visit) : List Visit → Prop
  | [] => True
  | visit :: rest => visit.earlier = made ∧ Successive (made ++ [visit]) rest

theorem successive_append_iff {made first second : List Visit} :
    Successive made (first ++ second) ↔
      Successive made first ∧ Successive (made ++ first) second := by
  induction first generalizing made with
  | nil => simp [Successive]
  | cons visit rest inductionHypothesis =>
    rw [List.cons_append, Successive, Successive, inductionHypothesis, and_assoc,
      List.append_assoc, List.singleton_append]

mutual

theorem successive_visits (position : Position) (document : Document) :
    Successive position.visitsBefore (document.visits position) := by
  match document with
  | .text content =>
    rw [visits]
    exact ⟨rfl, True.intro⟩
  | .foreign kind =>
    rw [visits]
    exact ⟨rfl, True.intro⟩
  | .object members =>
    rw [visits]
    exact ⟨rfl, successive_visitsOfMembers position [] members⟩
termination_by structural document

theorem successive_visitsOfMembers (position : Position)
    (before members : List (String × Document)) :
    Successive (position.visitsBefore ++ (object before).visits position)
      (visitsOfMembers position before members) := by
  match members with
  | [] =>
    rw [visitsOfMembers]
    exact True.intro
  | (key, document) :: rest =>
    -- Cut off at this member, the document ends with the members before it.
    have value := successive_visits (⟨before, key⟩ :: position) document
    have later := successive_visitsOfMembers position (before ++ [(key, document)]) rest
    rw [visits, visitsOfMembers_append, List.nil_append, visitsOfMembers_singleton] at later
    rw [Position.visitsBefore, Position.cut, visits_rebuild] at value
    rw [visitsOfMembers, Successive, Successive, successive_append_iff, Visit.earlier,
      Visit.earlier, Position.cut, visits_rebuild]
    refine ⟨rfl, rfl, ?_, ?_⟩
    · simpa only [List.append_assoc, List.cons_append, List.nil_append] using value
    · simpa only [visits, List.append_assoc, List.cons_append, List.nil_append] using later
termination_by structural members

end

/-- What precedes a visit of a document is known from the visit alone. -/
theorem earlier_of_visits_eq {document : Document} {before after : List Visit} {visit : Visit}
    (split : document.visits [] = before ++ visit :: after) : visit.earlier = before := by
  have successive := successive_visits [] document
  rw [split, successive_append_iff] at successive
  exact successive.2.1

/-- The document cut off before a visit takes no more visits than precede it. -/
theorem Visit.visits_cut_prefix {visit : Visit} (inner : visit.position ≠ []) :
    (Document.object (Position.cut visit.position)).visits [] <+: visit.earlier := by
  have value (position : Position) (inner : position ≠ []) :
      (Document.object position.cut).visits [] <+: position.visitsBefore := by
    cases position with
    | nil => exact absurd rfl inner
    | cons frame above => exact List.prefix_append _ _
  cases visit with
  | object position => exact value position inner
  | key frame above => exact List.prefix_rfl
  | repetition frame above => exact List.prefix_append _ _
  | text position content => exact value position inner
  | foreign position kind => exact value position inner

/-! ### Visits and parts -/

/-- The visit is of something that the document has. -/
def Visit.FoundIn (document : Document) : Visit → Prop
  | .object position => ∃ members, Stands document position (.object members)
  | .key frame above => ∃ part, Stands document (frame :: above) part
  | .repetition frame above => ∃ part, Stands document (frame :: above) part
  | .text position content => Stands document position (.text content)
  | .foreign position kind => Stands document position (.foreign kind)

mutual

theorem foundIn_of_mem_visits {document part : Document} {position : Position}
    (stands : Stands document position part) :
    ∀ visit ∈ part.visits position, visit.FoundIn document := by
  match part with
  | .text content =>
    rw [visits, List.forall_mem_singleton]
    exact stands
  | .foreign kind =>
    rw [visits, List.forall_mem_singleton]
    exact stands
  | .object members =>
    rw [visits, List.forall_mem_cons]
    exact ⟨⟨members, stands⟩, foundIn_of_mem_visitsOfMembers stands⟩
termination_by structural part

theorem foundIn_of_mem_visitsOfMembers {document : Document} {position : Position}
    {before members : List (String × Document)}
    (stands : Stands document position (.object (before ++ members))) :
    ∀ visit ∈ visitsOfMembers position before members, visit.FoundIn document := by
  match members with
  | [] =>
    rw [visitsOfMembers]
    exact List.forall_mem_nil _
  | (key, part) :: rest =>
    have value : Stands document (⟨before, key⟩ :: position) part := stands.inside
    rw [visitsOfMembers, List.forall_mem_cons, List.forall_mem_cons, List.forall_mem_append]
    refine ⟨⟨part, value⟩, ⟨part, value⟩, foundIn_of_mem_visits value, ?_⟩
    refine foundIn_of_mem_visitsOfMembers ?_
    rw [List.append_assoc]
    exact stands
termination_by structural members

end

end Phrasebook.Document
