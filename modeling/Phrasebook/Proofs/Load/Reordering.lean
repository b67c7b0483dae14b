/-
This file shows that the order in which a document has its members makes no difference to what
is loaded. Two members next to each other can change places: neither is refused for the other
unless their keys are the same, and then both orders are refused, and insertions at different
keys commute. So the members of one object can be put into any order, and since a value makes
the same node before and after, so can those of any object inside of it.
-/

import Mathlib.Data.String.Basic
import Mathlib.Logic.Relation
import Phrasebook.Proofs.Load.WellFormed

namespace Phrasebook

/-! ### Reordering -/

namespace Document

/-- The second document is the first with the members of one of its objects in another order,
be it the document itself or an object at any depth. -/
inductive Reorders : Document → Document → Prop
  | here {members others : List (String × Document)} (perm : members.Perm others) :
      Reorders (.object members) (.object others)
  | inside {before after : List (String × Document)} {key : String} {document other : Document}
      (deeper : Reorders document other) :
      Reorders (.object (before ++ (key, document) :: after))
        (.object (before ++ (key, other) :: after))

/-- The second document is the first with the members of any of its objects in other orders. -/
def Reordered : Document → Document → Prop :=
  Relation.ReflTransGen Reorders

end Document

/-! ### Insertions -/

namespace Namespace

variable {key other : String} {node held : Node}

theorem insert_cons_of_lt (smaller : key < other) (rest : Namespace) :
    insert key node ((other, held) :: rest) = (key, node) :: (other, held) :: rest := by
  rw [insert, if_pos smaller]

theorem insert_cons_self (rest : Namespace) :
    insert key node ((key, held) :: rest) = (key, node) :: rest := by
  rw [insert, if_neg (String.lt_irrefl key), if_pos rfl]

theorem insert_cons_of_gt (greater : other < key) (rest : Namespace) :
    insert key node ((other, held) :: rest) = (other, held) :: insert key node rest := by
  rw [insert, if_neg (String.lt_asymm greater), if_neg]
  rintro rfl
  exact String.lt_irrefl _ greater

theorem insert_comm_of_lt (smaller : key < other) (children : Namespace) :
    insert other held (insert key node children) =
      insert key node (insert other held children) := by
  induction children with
  | nil => rw [insert, insert_cons_of_gt smaller, insert, insert_cons_of_lt smaller]
  | cons first rest inductionHypothesis =>
    obtain ⟨present, old⟩ := first
    rcases lt_trichotomy key present with before | rfl | behind
    · -- Whatever becomes of the larger key, it stays behind the smaller one.
      rw [insert_cons_of_lt before, insert_cons_of_gt smaller]
      rcases lt_trichotomy other present with between | rfl | further
      · rw [insert_cons_of_lt between, insert_cons_of_lt smaller]
      · rw [insert_cons_self, insert_cons_of_lt smaller]
      · rw [insert_cons_of_gt further, insert_cons_of_lt before]
    · rw [insert_cons_self, insert_cons_of_gt smaller, insert_cons_of_gt smaller,
        insert_cons_self]
    · have further : present < other := String.lt_trans behind smaller
      rw [insert_cons_of_gt behind, insert_cons_of_gt further, inductionHypothesis,
        insert_cons_of_gt further, insert_cons_of_gt behind]

/-- Insertions at different keys commute, in any namespace. -/
theorem insert_comm (different : key ≠ other) (node held : Node) (children : Namespace) :
    insert other held (insert key node children) =
      insert key node (insert other held children) := by
  rcases lt_trichotomy key other with smaller | same | greater
  · exact insert_comm_of_lt smaller children
  · exact absurd same different
  · exact (insert_comm_of_lt greater children).symm

/-! ### Members in another order -/

variable {options : LoadOptions} {parent : Option KeyPath} {depth : Nat}
  {children extended : Namespace} {members others : List (String × Document)}

theorem extend_swap {first second : String × Document} {rest : List (String × Document)}
    (made : extend options parent depth children (first :: second :: rest) = .ok extended) :
    extend options parent depth children (second :: first :: rest) = .ok extended := by
  obtain ⟨key, document⟩ := first
  obtain ⟨other, value⟩ := second
  obtain ⟨path, node, found, absent, read, onward⟩ := extend_cons_eq_ok_iff.mp made
  obtain ⟨pathOther, held, foundOther, absentOther, readOther, last⟩ :=
    extend_cons_eq_ok_iff.mp onward
  have different : key ≠ other := by
    rintro rfl
    rw [lookup_insert, if_pos rfl] at absentOther
    cases absentOther
  rw [lookup_insert, if_neg different.symm] at absentOther
  have absentLater : (children.insert other held).lookup key = none := by
    rw [lookup_insert, if_neg different]
    exact absent
  rw [insert_comm different] at last
  exact extend_cons_eq_ok_iff.mpr ⟨pathOther, held, foundOther, absentOther, readOther,
    extend_cons_eq_ok_iff.mpr ⟨path, node, found, absentLater, read, last⟩⟩

/-- Adding the same members in another order has the same result, if it has one. -/
theorem extend_perm (perm : members.Perm others) :
    extend options parent depth children members = .ok extended ↔
      extend options parent depth children others = .ok extended := by
  induction perm generalizing children with
  | nil => rfl
  | cons member _ inductionHypothesis =>
    obtain ⟨key, document⟩ := member
    simp only [extend_cons_eq_ok_iff, inductionHypothesis]
  | swap first second rest => exact ⟨extend_swap, extend_swap⟩
  | trans _ _ firstHypothesis secondHypothesis => exact firstHypothesis.trans secondHypothesis

/-- A member can be replaced by one that makes the same nodes. -/
theorem extend_inside {document other : Document}
    (same : ∀ path node, Node.ofDocument options path depth document = .ok node ↔
      Node.ofDocument options path depth other = .ok node)
    (before after : List (String × Document)) (key : String) :
    extend options parent depth children (before ++ (key, document) :: after) = .ok extended ↔
      extend options parent depth children (before ++ (key, other) :: after) =
        .ok extended := by
  induction before generalizing children with
  | nil => simp only [List.nil_append, extend_cons_eq_ok_iff, same]
  | cons member rest inductionHypothesis =>
    obtain ⟨present, value⟩ := member
    simp only [List.cons_append, extend_cons_eq_ok_iff, inductionHypothesis]

end Namespace

/-! ### Documents in another order -/

open Document

variable {options : LoadOptions}

/-- Reordering one object does not change the node that a value makes. -/
theorem Node.ofDocument_of_reorders {document other : Document}
    (reorders : Reorders document other) (path : KeyPath) (depth : Nat) (node : Node) :
    Node.ofDocument options path depth document = .ok node ↔
      Node.ofDocument options path depth other = .ok node := by
  induction reorders generalizing path depth node with
  | here perm =>
    simp only [ofDocument_object_eq_ok_iff, Namespace.ofMembers_eq_ok_iff,
      Namespace.extend_perm perm]
  | inside _ inductionHypothesis =>
    simp only [ofDocument_object_eq_ok_iff, Namespace.ofMembers_eq_ok_iff,
      Namespace.extend_inside fun path node => inductionHypothesis path _ node]

namespace Namespace

variable {members : List (String × Document)}

theorem ofMembers_of_reorders {document : Document}
    (reorders : Reorders (.object members) document) :
    ∃ others, document = .object others ∧ ∀ parent depth children,
      ofMembers options parent depth members = .ok children ↔
        ofMembers options parent depth others = .ok children := by
  cases reorders with
  | here perm =>
    refine ⟨_, rfl, fun parent depth children => ?_⟩
    rw [ofMembers_eq_ok_iff, ofMembers_eq_ok_iff, extend_perm perm]
  | inside deeper =>
    refine ⟨_, rfl, fun parent depth children => ?_⟩
    rw [ofMembers_eq_ok_iff, ofMembers_eq_ok_iff,
      extend_inside fun path node => Node.ofDocument_of_reorders deeper path depth node]

theorem exists_ofMembers_of_reordered {document : Document}
    (reordered : Reordered (.object members) document) :
    ∃ others, document = .object others ∧ ∀ parent depth children,
      ofMembers options parent depth members = .ok children ↔
        ofMembers options parent depth others = .ok children := by
  induction reordered with
  | refl => exact ⟨members, rfl, fun _ _ _ => Iff.rfl⟩
  | tail _ step inductionHypothesis =>
    obtain ⟨middle, rfl, same⟩ := inductionHypothesis
    obtain ⟨others, rfl, onward⟩ := ofMembers_of_reorders step
    refine ⟨others, rfl, fun parent depth children => ?_⟩
    exact (same parent depth children).trans (onward parent depth children)

/-- The order of members does not matter: with the members of any of its objects in other
orders a document is accepted just as well, and it makes the same namespace. -/
theorem ofMembers_of_reordered {members others : List (String × Document)}
    (options : LoadOptions) (parent : Option KeyPath) (depth : Nat)
    (reordered : Reordered (.object members) (.object others)) :
    ((∃ root, ofMembers options parent depth members = .ok root) ↔
      ∃ root, ofMembers options parent depth others = .ok root) ∧
    ∀ root other, ofMembers options parent depth members = .ok root →
      ofMembers options parent depth others = .ok other → root = other := by
  obtain ⟨_, same, makes⟩ := exists_ofMembers_of_reordered reordered
  cases same
  refine ⟨exists_congr (makes parent depth), fun root other made madeOther => ?_⟩
  rw [(makes parent depth root).mp made] at madeOther
  cases madeOther
  rfl

/-- A menu with two entries in it and a title. -/
def menuMembers : List (String × Document) :=
  [("menu", .object [("open", .text "Open"), ("close", .text "Close")]), ("title", .text "Menu")]

/-- The same with the title first and the entries exchanged. -/
def titleFirstMembers : List (String × Document) :=
  [("title", .text "Menu"), ("menu", .object [("close", .text "Close"), ("open", .text "Open")])]

theorem ofMembers_of_reordered_menuMembers :
    Reordered (.object menuMembers) (.object titleFirstMembers) ∧
    ∃ root, ofMembers {} none 1 menuMembers = .ok root ∧
      ofMembers {} none 1 titleFirstMembers = .ok root := by
  have exchanged : Reorders (.object menuMembers) (.object titleFirstMembers.reverse) :=
    @Reorders.inside [] _ "menu" _ _ (.here (.swap _ _ _))
  have reordered : Reordered (.object menuMembers) (.object titleFirstMembers) :=
    .tail (.single exchanged) (.here (.swap _ _ _))
  have succeeds : (ofMembers {} none 1 menuMembers).isOk := by decide +kernel
  obtain ⟨root, made⟩ := exists_of_isOk succeeds
  obtain ⟨accepted, same⟩ := ofMembers_of_reordered {} none 1 reordered
  obtain ⟨other, madeOther⟩ := accepted.mp ⟨root, made⟩
  refine ⟨reordered, root, made, ?_⟩
  rw [same root other made madeOther]
  exact madeOther

end Namespace

end Phrasebook
