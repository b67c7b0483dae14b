/-
This file gives the grammar of templates under the strict policy. There each
segment has spellings of its own, whatever stands around it, and a text is a
template when it is made of spellings, one for each segment. This is so because no
token can start in one segment and end in another: a token starts with a brace or a
bracket and has neither later on, and behind a text only a token or the end of the
template can follow.
-/

import Mathlib.Data.List.Forall2
import Phrasebook.Proofs.Template.Spelling

namespace Phrasebook.Template

open Text Segment

/-! ### Borders -/

/-- The characters are at an end, or they go on with a character that starts a token. -/
def Bordered (after : List Char) : Prop :=
  ∀ character ∈ after.head?, character = '{' ∨ character = '['

variable {policy : MalformedReferencePolicy} {segments : List Segment}
  {characters after tail content : List Char}

theorem Spelled.bordered (spelled : Spelled policy segments characters)
    (apart : leadsWithText segments = false) : Bordered characters := by
  intro character member
  cases spelled with
  | nothing => cases member
  | text => cases apart
  | placeholder _ whole =>
    rw [whole] at member
    cases member
    exact Or.inl rfl
  | reference _ whole =>
    rw [whole] at member
    cases member
    exact Or.inr rfl

theorem opening_prefix_of_bordered (bordered : Bordered after) (filled : tail ≠ [])
    (starts : referenceOpening.toList <+: tail ++ after) :
    referenceOpening.toList <+: tail := by
  refine prefix_of_prefix_append filled ?_ starts
  intro character member
  rcases bordered character member with rfl | rfl
  · decide
  · decide

theorem braced_prefix_of_bordered (bordered : Bordered after) (filled : tail ≠ [])
    {name : List Char} (identifier : isIdentifierChars name)
    (starts : braced name <+: tail ++ after) : braced name <+: tail := by
  refine prefix_of_prefix_append filled ?_ starts
  intro character member inside
  have allowed : isIdentifierRest character ∨ character = '}' := by
    rcases List.mem_append.mp inside with named | closing
    · exact Or.inl (isIdentifierRest_of_mem identifier named)
    · exact Or.inr (List.mem_singleton.mp closing)
  revert allowed
  rcases bordered character member with rfl | rfl
  · decide
  · decide

/-- In front of a border a text is kept when no placeholder stands in it and each opening in
it is kept. -/
theorem kept_tails_iff (bordered : Bordered after) :
    (∀ tail, tail ≠ [] → tail <:+ content → Kept policy (tail ++ after)) ↔
      (∀ name, isIdentifierChars name → ¬braced name <:+: content) ∧
        ∀ body, referenceOpening.toList ++ body <:+ content →
          policy = .literal ∧ Malformed (body ++ after) := by
  constructor
  · intro kept
    constructor
    · rintro name identifier ⟨before, behind, rfl⟩
      have keptHere := kept (braced name ++ behind) (by simp [braced]) ⟨before, by simp⟩
      refine keptHere.unbraced name identifier ?_
      rw [List.append_assoc]
      exact List.prefix_append _ _
    · intro body ends
      exact (kept _ (by simp [referenceOpening]) ends).unopened _ (List.append_assoc _ _ _)
  · rintro ⟨unbraced, opened⟩ tail filled ends
    constructor
    · intro name identifier starts
      have inside := braced_prefix_of_bordered bordered filled identifier starts
      exact unbraced name identifier (inside.isInfix.trans ends.isInfix)
    · intro body whole
      obtain ⟨inner, rfl⟩ := opening_prefix_of_bordered bordered filled ⟨body, whole.symm⟩
      rw [List.append_assoc] at whole
      rw [← List.append_cancel_left whole]
      exact opened inner ends

/-! ### The strict grammar -/

/-- A text in which no token starts. -/
structure Plain (content : List Char) : Prop where
  unopened : ¬referenceOpening.toList <:+: content
  unbraced : ∀ name, isIdentifierChars name → ¬braced name <:+: content

theorem kept_tails_iff_plain (bordered : Bordered after) :
    (∀ tail, tail ≠ [] → tail <:+ content → Kept .reject (tail ++ after)) ↔ Plain content := by
  rw [kept_tails_iff bordered]
  constructor
  · rintro ⟨unbraced, opened⟩
    refine ⟨?_, unbraced⟩
    rintro ⟨before, behind, whole⟩
    cases (opened behind ⟨before, by rw [← whole, List.append_assoc]⟩).1
  · rintro ⟨unopened, unbraced⟩
    refine ⟨unbraced, fun body ends => absurd ?_ unopened⟩
    exact (List.prefix_append _ _).isInfix.trans ends.isInfix

/-- The spellings of a segment: a plain text as it stands, a placeholder by its name in
braces, and a reference by any text that names its target in brackets. -/
inductive Spelling : Segment → List Char → Prop
  | text {content : String} (plain : Plain content.toList) :
      Spelling (.text content) content.toList
  | placeholder {name : String} (identifier : isIdentifier name) :
      Spelling (.placeholder name) (braced name.toList)
  | reference {target : KeyPath} {inner : List Char} (names : Names inner target) :
      Spelling (.reference target) (bracketed inner)

/-- The characters are made of spellings of the segments, no text of which is empty and no
two texts of which are neighbours. -/
structure Composed (segments : List Segment) (characters : List Char) : Prop where
  settled : Settled segments
  spellings : ∃ parts, List.Forall₂ Spelling segments parts ∧ parts.flatten = characters

theorem spelled_of_forall₂ {parts : List (List Char)} (settled : Settled segments)
    (spellings : List.Forall₂ Spelling segments parts) :
    Spelled .reject segments parts.flatten := by
  induction spellings with
  | nil => exact .nothing
  | cons spelling _ inductionHypothesis =>
    cases spelling with
    | text plain =>
      obtain ⟨filled, apart, settledRest⟩ := settled
      have onward := inductionHypothesis settledRest
      have kept := (kept_tails_iff_plain (onward.bordered apart)).mpr plain
      exact .text filled apart rfl kept onward
    | placeholder identifier => exact .placeholder identifier rfl (inductionHypothesis settled)
    | reference names => exact .reference names rfl (inductionHypothesis settled)

theorem exists_forall₂_of_spelled (spelled : Spelled .reject segments characters) :
    ∃ parts, List.Forall₂ Spelling segments parts ∧ parts.flatten = characters := by
  induction spelled with
  | nothing => exact ⟨[], .nil, rfl⟩
  | text filled apart whole kept onward inductionHypothesis =>
    obtain ⟨parts, spellings, rfl⟩ := inductionHypothesis
    have plain := (kept_tails_iff_plain (onward.bordered apart)).mp kept
    exact ⟨_ :: parts, .cons (.text plain) spellings, whole.symm⟩
  | placeholder identifier whole _ inductionHypothesis =>
    obtain ⟨parts, spellings, rfl⟩ := inductionHypothesis
    exact ⟨_ :: parts, .cons (.placeholder identifier) spellings, whole.symm⟩
  | reference names whole _ inductionHypothesis =>
    obtain ⟨parts, spellings, rfl⟩ := inductionHypothesis
    exact ⟨_ :: parts, .cons (.reference names) spellings, whole.symm⟩

theorem spelled_reject_iff :
    Spelled .reject segments characters ↔ Composed segments characters := by
  constructor
  · intro spelled
    exact ⟨spelled.settled, exists_forall₂_of_spelled spelled⟩
  · rintro ⟨settled, parts, spellings, rfl⟩
    exact spelled_of_forall₂ settled spellings

/-- The strict grammar: reading a text gives certain segments exactly when the text is made of
spellings of them, and it is made of spellings in one way at most. -/
theorem strict_grammar (raw : String) :
    (∀ segments, (∃ template, parse raw .reject = .ok template ∧ template.segments = segments) ↔
      Composed segments raw.toList) ∧
    ∀ first second, Composed first raw.toList → Composed second raw.toList → first = second := by
  constructor
  · intro segments
    constructor
    · rintro ⟨template, parsed, rfl⟩
      exact spelled_reject_iff.mp (parse_eq_ok_iff.mp parsed)
    · intro composed
      refine ⟨⟨segments, composed.settled⟩, ?_, rfl⟩
      exact parse_eq_ok_iff.mpr (spelled_reject_iff.mpr composed)
  · intro first second composedFirst composedSecond
    exact (spelled_reject_iff.mpr composedFirst).unique (spelled_reject_iff.mpr composedSecond)

end Phrasebook.Template
