/-
This file says which error loading ends with. Each visit of a document either passes or
reports an error of its own kind, with the path that leads to the place. Loading makes the
visits in their order: when all of them pass it succeeds, and when one does not, the error is
what the first of these reports. Since the visits before it are all that a document cut off
there takes, such a document is accepted.
-/

import Phrasebook.Proofs.Load.Visits
import Phrasebook.Proofs.Load.WellFormed

namespace Phrasebook

namespace Document

/-! ### What a visit tells -/

/-- What is looked at is as it has to be. -/
def Visit.Passes (options : LoadOptions) : Visit → Prop
  | .object position => position.length + 1 ≤ options.maxNestingDepth
  | .key frame _ => checkSegment frame.key = .ok ()
  | .repetition frame _ => frame.key ∉ frame.before.map Prod.fst
  | .text _ content => ∃ entry, LeafEntry.parse content options.malformedReference = .ok entry
  | .foreign _ _ => False

/-- The path, if there is one, leads to the object at the position. -/
inductive Locates : Option KeyPath → Position → Prop
  /-- No path leads to the root. -/
  | root : Locates none []
  | inner {path : KeyPath} {position : Position} (segments : path.segments = position.keys) :
      Locates (some path) position

/-- The error says what is wrong with what is looked at, and where. -/
inductive Visit.Reports (options : LoadOptions) : Visit → LoadError → Prop
  /-- An object that is too deep is named itself. -/
  | tooDeep {position : Position} {path : Option KeyPath}
      (deep : options.maxNestingDepth < position.length + 1) (located : Locates path position) :
      Reports options (.object position)
        (.malformed path (.nestedTooDeep options.maxNestingDepth))
  /-- For a key that is no segment its object is named. -/
  | invalidKey {frame : Frame} {above : Position} {path : Option KeyPath} {fault : KeyPathError}
      (refused : checkSegment frame.key = .error fault) (located : Locates path above) :
      Reports options (.key frame above) (.malformed path (.invalidKey frame.key fault))
  /-- A repeated key has a path, and its object an earlier member with it. -/
  | repeated {frame : Frame} {above : Position} {path : KeyPath}
      (held : frame.key ∈ frame.before.map Prod.fst)
      (segments : path.segments = Position.keys (frame :: above)) :
      Reports options (.repetition frame above) (.duplicateKey path)
  | unreadable {position : Position} {content : String} {path : KeyPath} {fault : TemplateError}
      (refused : LeafEntry.parse content options.malformedReference = .error fault)
      (segments : path.segments = position.keys) :
      Reports options (.text position content) (.malformed (some path) (.invalidTemplate fault))
  | foreign {position : Position} {kind : ForeignKind} {path : KeyPath}
      (segments : path.segments = position.keys) :
      Reports options (.foreign position kind) (.malformed (some path) (.foreignLeaf kind))

variable {options : LoadOptions}

theorem Visit.Reports.not_passes {visit : Visit} {fault : LoadError}
    (reports : visit.Reports options fault) : ¬visit.Passes options := by
  intro passes
  cases reports with
  | tooDeep deep located => exact Nat.not_lt.mpr passes deep
  | invalidKey refused located => cases refused.symm.trans passes
  | repeated held segments => exact passes held
  | unreadable refused segments =>
    obtain ⟨entry, read⟩ := passes
    cases refused.symm.trans read
  | foreign segments => exact passes

/-- Only an object that is too deep can be at fault at the root, and the root is too deep only
when nothing is allowed. -/
theorem Visit.Reports.position_ne_nil {visit : Visit} {fault : LoadError}
    (reports : visit.Reports options fault) (shallow : 0 < options.maxNestingDepth) :
    visit.position ≠ [] := by
  cases reports with
  | @tooDeep position path deep located =>
    rintro rfl
    exact Nat.not_lt.mpr shallow deep
  | invalidKey refused located => exact List.cons_ne_nil _ _
  | repeated held segments => exact List.cons_ne_nil _ _
  | @unreadable position content path fault refused segments =>
    rintro rfl
    exact path.nonempty segments
  | @foreign position kind path segments =>
    rintro rfl
    exact path.nonempty segments

/-! ### Visits one after another -/

/-- The result is what the visits tell: something is made when all of them pass, and otherwise
the error is that of the first that does not. -/
inductive Accounts (options : LoadOptions) {Made : Type} :
    List Visit → Except LoadError Made → Prop
  | accepted {visits : List Visit} {made : Made} (passed : ∀ visit ∈ visits, visit.Passes options) :
      Accounts options visits (.ok made)
  | refused {before after : List Visit} {visit : Visit} {fault : LoadError}
      (passed : ∀ earlier ∈ before, earlier.Passes options)
      (reports : visit.Reports options fault) :
      Accounts options (before ++ visit :: after) (.error fault)

namespace Accounts

variable {Made Other : Type} {visit : Visit} {visits later : List Visit} {fault : LoadError}
  {result : Except LoadError Made}

theorem of_reports (reports : visit.Reports options fault) (later : List Visit) :
    Accounts options (visit :: later) (.error fault : Except LoadError Made) :=
  .refused (List.forall_mem_nil _) reports

theorem cons (passes : visit.Passes options) (accounts : Accounts options visits result) :
    Accounts options (visit :: visits) result := by
  cases accounts with
  | accepted passed => exact .accepted (List.forall_mem_cons.mpr ⟨passes, passed⟩)
  | refused passed reports =>
    exact .refused (List.forall_mem_cons.mpr ⟨passes, passed⟩) reports

theorem map (change : Made → Other) (accounts : Accounts options visits result) :
    Accounts options visits (result.map change) := by
  cases accounts with
  | accepted passed => exact .accepted passed
  | refused passed reports => exact .refused passed reports

/-- After visits that pass it depends on the later ones. -/
theorem append {made : Other}
    (accounts : Accounts options visits (.ok made : Except LoadError Other))
    (onward : Accounts options later result) : Accounts options (visits ++ later) result := by
  cases accounts with
  | accepted passed =>
    cases onward with
    | accepted others => exact .accepted (List.forall_mem_append.mpr ⟨passed, others⟩)
    | refused others reports =>
      rw [← List.append_assoc]
      exact .refused (List.forall_mem_append.mpr ⟨passed, others⟩) reports

theorem exists_of_error
    (accounts : Accounts options visits (.error fault : Except LoadError Made)) :
    ∃ before visit after, visits = before ++ visit :: after ∧
      (∀ earlier ∈ before, earlier.Passes options) ∧ visit.Reports options fault := by
  cases accounts with
  | refused passed reports => exact ⟨_, _, _, rfl, passed, reports⟩

/-- After a visit that does not pass the later ones do not matter. -/
theorem stop (accounts : Accounts options visits (.error fault : Except LoadError Other))
    (later : List Visit) :
    Accounts options (visits ++ later) (.error fault : Except LoadError Made) := by
  cases accounts with
  | refused passed reports =>
    rw [List.append_assoc]
    exact .refused passed reports

end Accounts

end Document

/-! ### Steps of loading -/

open Document

variable {options : LoadOptions} {parent : Option KeyPath} {position : Position} {key : String}
  {fault : LoadError}

theorem segments_of_childPath {path : KeyPath} (located : Locates parent position)
    (found : childPath parent key = .ok path) : path.segments = position.keys ++ [key] := by
  cases located with
  | root =>
    simp only [childPath] at found
    split at found
    · rename_i made
      cases found
      exact KeyPath.segments_of_ofSegments made
    · cases found
  | inner segments =>
    simp only [childPath] at found
    split at found
    · rename_i made
      cases found
      rw [KeyPath.segments_of_child made, segments]
    · cases found

theorem reports_of_childPath (located : Locates parent position)
    (failed : childPath parent key = .error fault) (before : List (String × Document)) :
    (Visit.key ⟨before, key⟩ position).Reports options fault := by
  obtain ⟨cause, refused, rfl⟩ := exists_of_childPath_eq_error failed
  exact .invalidKey refused located

theorem reports_of_checkDepth (located : Locates parent position)
    (failed : checkDepth options parent (position.length + 1) = .error fault) :
    (Visit.object position).Reports options fault := by
  unfold checkDepth at failed
  split at failed
  · rename_i deep
    cases failed
    exact .tooDeep deep located
  · cases failed

/-- After the depth the members are accounted for. -/
theorem Namespace.accounts_ofMembers {members : List (String × Document)}
    (located : Locates parent position)
    (inner : Accounts options (visitsOfMembers position [] members)
      (Namespace.extend options parent (position.length + 1) [] members)) :
    Accounts options ((Document.object members).visits position)
      (Namespace.ofMembers options parent (position.length + 1) members) := by
  rw [visits, ofMembers]
  cases checked : checkDepth options parent (position.length + 1) with
  | error fault => exact .of_reports (reports_of_checkDepth located checked) _
  | ok done => exact .cons (checkDepth_eq_ok_iff.mp checked) inner

theorem Namespace.isSome_lookup_insert_iff {children : Namespace} {other : String} {node : Node} :
    ((children.insert key node).lookup other).isSome ↔
      (children.lookup other).isSome ∨ other = key := by
  rw [lookup_insert]
  by_cases same : other = key
  · simp [same]
  · simp [same]

/-! ### Loading -/

mutual

/-- Making a node of a document accounts for the visits of the document. -/
theorem Node.accounts_ofDocument {options : LoadOptions} {path : KeyPath} {position : Position}
    (document : Document) (segments : path.segments = position.keys) :
    Accounts options (document.visits position)
      (Node.ofDocument options path position.length document) := by
  match document with
  | .text content =>
    rw [visits, Node.ofDocument]
    cases read : LeafEntry.parse content options.malformedReference with
    | error fault => exact .of_reports (.unreadable read segments) []
    | ok entry => exact .accepted (List.forall_mem_singleton.mpr ⟨entry, read⟩)
  | .foreign kind =>
    rw [visits, Node.ofDocument]
    exact .of_reports (.foreign segments) []
  | .object members =>
    rw [Node.ofDocument_object]
    refine .map _ (Namespace.accounts_ofMembers (.inner segments) ?_)
    exact Namespace.accounts_extend members (.inner segments) fun key => by simp
termination_by structural document

/-- Adding members to a namespace that has the keys of the members before them accounts for
their visits. -/
theorem Namespace.accounts_extend {options : LoadOptions} {parent : Option KeyPath}
    {position : Position} {before : List (String × Document)} {children : Namespace}
    (members : List (String × Document)) (located : Locates parent position)
    (held : ∀ key, (children.lookup key).isSome ↔ key ∈ before.map Prod.fst) :
    Accounts options (visitsOfMembers position before members)
      (Namespace.extend options parent (position.length + 1) children members) := by
  match members with
  | [] =>
    rw [visitsOfMembers]
    exact .accepted (List.forall_mem_nil _)
  | (key, document) :: rest =>
    -- The namespace has the keys of the members before, so looking a key up finds a repetition.
    rw [visitsOfMembers, Namespace.extend]
    cases found : childPath parent key with
    | error fault => exact .of_reports (reports_of_childPath located found before) _
    | ok path =>
      refine .cons (checkSegment_of_childPath found) ?_
      have segments : path.segments = Position.keys (⟨before, key⟩ :: position) := by
        rw [Position.keys_cons]
        exact segments_of_childPath located found
      by_cases repeated : (children.lookup key).isSome
      · simp only [repeated, if_true]
        exact .of_reports (.repeated ((held key).mp repeated) segments) _
      · simp only [repeated]
        refine .cons (fun member => repeated ((held key).mpr member)) ?_
        have value : Accounts options (document.visits (⟨before, key⟩ :: position))
            (Node.ofDocument options path (position.length + 1) document) :=
          Node.accounts_ofDocument document segments
        cases made : Node.ofDocument options path (position.length + 1) document with
        | error fault =>
          rw [made] at value
          exact value.stop _
        | ok node =>
          rw [made] at value
          refine value.append (Namespace.accounts_extend rest located fun other => ?_)
          rw [Namespace.isSome_lookup_insert_iff, held other, List.map_append, List.mem_append,
            List.map_singleton, List.mem_singleton]
termination_by structural members

end

namespace Namespace

/-- Loading accounts for the visits of the whole document. -/
theorem accounts_root (options : LoadOptions) (members : List (String × Document)) :
    Accounts options ((Document.object members).visits []) (ofMembers options none 1 members) :=
  accounts_ofMembers .root (accounts_extend members .root fun key => by simp)

theorem exists_ofMembers_of_passes {options : LoadOptions} {members : List (String × Document)}
    (passed : ∀ visit ∈ (Document.object members).visits [], visit.Passes options) :
    ∃ root, ofMembers options none 1 members = .ok root := by
  have accounts := accounts_root options members
  cases made : ofMembers options none 1 members with
  | ok root => exact ⟨root, rfl⟩
  | error fault =>
    rw [made] at accounts
    obtain ⟨before, visit, after, split, -, reports⟩ := accounts.exists_of_error
    refine absurd (passed visit ?_) reports.not_passes
    rw [split]
    exact List.mem_append_right _ List.mem_cons_self

/-- When loading fails, the error is what the first visit that does not pass reports of its place
in the document. Unless the root itself is too deep, the document cut off before the member
that the visit is about is accepted. -/
theorem ofMembers_first_fault {options : LoadOptions} {members : List (String × Document)}
    {fault : LoadError} (failed : ofMembers options none 1 members = .error fault) :
    ∃ before visit after, (Document.object members).visits [] = before ++ visit :: after ∧
      (∀ earlier ∈ before, earlier.Passes options) ∧ ¬visit.Passes options ∧
      visit.Reports options fault ∧ visit.FoundIn (.object members) ∧
      (0 < options.maxNestingDepth →
        ∃ root, ofMembers options none 1 (Position.cut visit.position) = .ok root) := by
  have accounts := accounts_root options members
  rw [failed] at accounts
  obtain ⟨before, visit, after, split, passed, reports⟩ := accounts.exists_of_error
  have found : visit.FoundIn (.object members) := by
    refine foundIn_of_mem_visits .here visit ?_
    rw [split]
    exact List.mem_append_right _ List.mem_cons_self
  refine ⟨before, visit, after, split, passed, reports.not_passes, reports, found, ?_⟩
  intro shallow
  have inner : visit.position ≠ [] := reports.position_ne_nil shallow
  have shorter := Visit.visits_cut_prefix inner
  rw [earlier_of_visits_eq split] at shorter
  exact exists_ofMembers_of_passes fun earlier member => passed earlier (shorter.subset member)

/-- A repeated key, its value, a key that holds a separator, and an array: each of them would be
a fault on its own. -/
def faultyMembers : List (String × Document) :=
  [("form", .object [("fields", .object []), ("fields", .foreign .null), ("a.b", .text "")]),
    ("menu", .foreign .array)]

/-- The path of the repeated key. -/
def formFields : KeyPath :=
  ⟨["form", "fields"], by decide, by decide⟩

theorem ofMembers_first_fault_faultyMembers :
    ofMembers {} none 1 faultyMembers = .error (.duplicateKey formFields) ∧
    ∃ visit ∈ (Document.object faultyMembers).visits [],
      visit.Reports {} (.duplicateKey formFields) ∧
      ∃ root, ofMembers {} none 1 (Position.cut visit.position) = .ok root := by
  have failed : ofMembers {} none 1 faultyMembers = .error (.duplicateKey formFields) := rfl
  obtain ⟨before, visit, after, split, -, -, reports, -, accepted⟩ := ofMembers_first_fault failed
  refine ⟨failed, visit, ?_, reports, accepted (by decide)⟩
  rw [split]
  exact List.mem_append_right _ List.mem_cons_self

end Namespace

end Phrasebook
