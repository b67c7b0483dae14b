/-
This file relates the fragments that a walk writes to the pieces it was given. A
walk keeps its fragments with the newest first and joins each text to the text
before it. Read in order, what it keeps is the list of pieces with neighbouring
texts joined, and if no piece is an empty text, then no fragment is empty and no
two texts stand side by side.
-/

import Mathlib.Algebra.Ring.Nat
import Mathlib.Data.List.Chain
import Phrasebook.Resolve.Walk
import Phrasebook.Template.Basic

namespace Phrasebook

/-! ### Fragments among segments -/

/-- The fragment as a segment of a template. -/
def Segment.ofFragment : Fragment → Segment
  | .text content => .text content
  | .placeholder name => .placeholder name

theorem Segment.eq_ofFragment_or_reference (segment : Segment) :
    (∃ fragment, segment = .ofFragment fragment) ∨ ∃ target, segment = .reference target := by
  cases segment with
  | text content => exact Or.inl ⟨.text content, rfl⟩
  | placeholder name => exact Or.inl ⟨.placeholder name, rfl⟩
  | reference target => exact Or.inr ⟨target, rfl⟩

namespace Fragment

/-- The number of bytes that a fragment uses up, those of its text or of its name. -/
def bytes : Fragment → Nat
  | .text content => content.utf8ByteSize
  | .placeholder name => name.utf8ByteSize

/-- The number of bytes that fragments use up together. -/
def totalBytes (fragments : List Fragment) : Nat :=
  (fragments.map bytes).sum

/-- Puts a fragment behind others, given with the newest first. -/
def push (written : List Fragment) : Fragment → List Fragment
  | .text content => Walk.joinText content written
  | .placeholder name => .placeholder name :: written

/-! ### Joining neighbours -/

/-- Puts a text before fragments, joined to the text it meets. -/
def prepend (content : String) : List Fragment → List Fragment
  | .text later :: more => .text (content ++ later) :: more
  | rest => .text content :: rest

/-- The fragments with neighbouring texts joined. -/
def join : List Fragment → List Fragment
  | [] => []
  | .text content :: rest => prepend content (join rest)
  | .placeholder name :: rest => .placeholder name :: join rest

theorem prepend_append (first second : String) (fragments : List Fragment) :
    prepend (first ++ second) fragments = prepend first (prepend second fragments) := by
  match fragments with
  | [] => rfl
  | .placeholder _ :: _ => rfl
  | .text later :: more => simp only [prepend, String.append_assoc]

theorem join_append_congr (before : List Fragment) {first second : List Fragment}
    (same : join first = join second) : join (before ++ first) = join (before ++ second) := by
  induction before with
  | nil => exact same
  | cons fragment rest inductionHypothesis =>
    cases fragment with
    | text content => rw [List.cons_append, List.cons_append, join, join, inductionHypothesis]
    | placeholder name =>
      rw [List.cons_append, List.cons_append, join, join, inductionHypothesis]

/-- Joining does not see whether a text was joined before. -/
theorem join_reverse_push (written : List Fragment) (fragment : Fragment)
    (rest : List Fragment) :
    join ((push written fragment).reverse ++ rest) =
      join (written.reverse ++ fragment :: rest) := by
  match written, fragment with
  | written, .placeholder name => simp [push]
  | [], .text content => simp [push, Walk.joinText]
  | .placeholder name :: older, .text content => simp [push, Walk.joinText]
  | .text earlier :: older, .text content =>
    simp only [push, Walk.joinText, List.reverse_cons, List.append_assoc]
    refine join_append_congr older.reverse ?_
    exact prepend_append earlier content (join rest)

theorem join_reverse_foldl_push (pieces written : List Fragment) :
    join (pieces.foldl push written).reverse = join (written.reverse ++ pieces) := by
  induction pieces generalizing written with
  | nil => rw [List.foldl_nil, List.append_nil]
  | cons fragment rest inductionHypothesis =>
    rw [List.foldl_cons, inductionHypothesis, join_reverse_push]

/-! ### Settled fragments -/

/-- Whether the fragment is text. -/
def IsText : Fragment → Prop
  | .text _ => True
  | .placeholder _ => False

/-- Of two neighbours at most one is text. -/
def Apart (first second : Fragment) : Prop :=
  ¬(first.IsText ∧ second.IsText)

/-- No text is empty and no two texts are neighbours. -/
structure Settled (fragments : List Fragment) : Prop where
  filled : ∀ content, .text content ∈ fragments → content ≠ ""
  apart : fragments.IsChain Apart

theorem apart_comm (first second : Fragment) : Apart first second ↔ Apart second first := by
  unfold Apart
  rw [and_comm]

theorem isChain_apart_reverse {fragments : List Fragment} :
    fragments.reverse.IsChain Apart ↔ fragments.IsChain Apart := by
  rw [List.isChain_reverse]
  simp only [apart_comm]

theorem isChain_apart_push {written : List Fragment} (apart : written.IsChain Apart)
    (fragment : Fragment) : (push written fragment).IsChain Apart := by
  match written, fragment with
  | written, .placeholder name =>
    exact List.isChain_cons.mpr ⟨fun _ _ => fun both => both.1, apart⟩
  | [], .text content => exact List.isChain_singleton _
  | .placeholder name :: older, .text content =>
    exact List.isChain_cons_cons.mpr ⟨fun both => both.2, apart⟩
  | .text earlier :: older, .text content =>
    obtain ⟨first, rest⟩ := List.isChain_cons.mp apart
    exact List.isChain_cons.mpr ⟨first, rest⟩

theorem isChain_apart_foldl_push (pieces : List Fragment) {written : List Fragment}
    (apart : written.IsChain Apart) : (pieces.foldl push written).IsChain Apart := by
  induction pieces generalizing written with
  | nil => exact apart
  | cons fragment rest inductionHypothesis =>
    exact inductionHypothesis (isChain_apart_push apart fragment)

/-- Fragments without neighbouring texts are joined already. -/
theorem join_of_isChain_apart {fragments : List Fragment} (apart : fragments.IsChain Apart) :
    join fragments = fragments := by
  induction fragments with
  | nil => rfl
  | cons fragment rest inductionHypothesis =>
    have joined := inductionHypothesis (List.isChain_cons.mp apart).2
    cases fragment with
    | placeholder name => rw [join, joined]
    | text content =>
      rw [join, joined]
      match rest with
      | [] => rfl
      | .placeholder _ :: _ => rfl
      | .text later :: more =>
        exact absurd ⟨True.intro, True.intro⟩ (List.isChain_cons_cons.mp apart).1

/-- What a walk writes, read in order, is what it was given with neighbouring texts joined. -/
theorem reverse_foldl_push (pieces : List Fragment) :
    (pieces.foldl push []).reverse = join pieces := by
  have apart := isChain_apart_foldl_push pieces List.isChain_nil
  rw [← join_of_isChain_apart (isChain_apart_reverse.mpr apart), join_reverse_foldl_push]
  rfl

/-- Joining leaves no texts side by side. -/
theorem isChain_apart_join (pieces : List Fragment) : (join pieces).IsChain Apart := by
  rw [← reverse_foldl_push]
  exact isChain_apart_reverse.mpr (isChain_apart_foldl_push pieces List.isChain_nil)

theorem filled_prepend {content : String} (nonempty : content ≠ "") {fragments : List Fragment}
    (filled : ∀ other, .text other ∈ fragments → other ≠ "") :
    ∀ other, .text other ∈ prepend content fragments → other ≠ "" := by
  intro other member
  match fragments with
  | [] =>
    cases List.mem_singleton.mp member
    exact nonempty
  | .placeholder name :: more =>
    rcases List.mem_cons.mp member with same | later
    · cases same
      exact nonempty
    · exact filled other later
  | .text later :: more =>
    rcases List.mem_cons.mp member with same | further
    · cases same
      exact fun empty => nonempty (String.append_eq_empty_iff.mp empty).1
    · exact filled other (List.mem_cons_of_mem _ further)

/-- Joining pieces none of which is an empty text settles them. -/
theorem settled_join {pieces : List Fragment}
    (filled : ∀ content, .text content ∈ pieces → content ≠ "") : Settled (join pieces) where
  filled := by
    induction pieces with
    | nil => exact filled
    | cons fragment rest inductionHypothesis =>
      have later := inductionHypothesis fun content member =>
        filled content (List.mem_cons_of_mem _ member)
      cases fragment with
      | text content => exact filled_prepend (filled content List.mem_cons_self) later
      | placeholder name =>
        intro content member
        rcases List.mem_cons.mp member with same | further
        · cases same
        · exact later content further
  apart := isChain_apart_join pieces

end Fragment

end Phrasebook
