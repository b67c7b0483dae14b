/-
This file compares the two policies for malformed references. The lenient policy never fails, as
it has a way on at every opening. Behind a malformed opening it reads on inside of what the
strict policy refuses, so the two can differ in everything that follows. But then the opening
stands in a text, and under the strict policy no text has one: where the lenient policy finds no
opening to keep, both go the same way from the first character to the last.
-/

import Phrasebook.Proofs.Template.SourceText

namespace Phrasebook.Template

open Text Segment

variable {policy : MalformedReferencePolicy} {segments : List Segment} {characters : List Char}

/-! ### The lenient policy reads everything -/

theorem exists_scan_literal (offset : Nat) (pending : List Char) (found : List Segment)
    (characters : List Char) :
    ∃ segments, scan .literal offset pending found characters = .ok segments := by
  fun_induction scan .literal offset pending found characters
  case case1 => exact ⟨_, rfl⟩
  case case3 reject => cases reject
  case case2 inductionHypothesis | case4 inductionHypothesis | case5 inductionHypothesis |
      case6 inductionHypothesis | case7 inductionHypothesis =>
    exact inductionHypothesis

theorem exists_parse_literal (raw : String) : ∃ template, parse raw .literal = .ok template := by
  obtain ⟨segments, scanned⟩ := exists_scan_literal 0 [] [] raw.toList
  rw [parse, scanned]
  exact ⟨_, rfl⟩

/-! ### Where the policies agree -/

/-- No text among the segments has an opening in it. -/
def Unopened (segments : List Segment) : Prop :=
  ∀ content, .text content ∈ segments → ¬referenceOpening.toList <:+: content.toList

theorem unopened_text_iff {content : String} {rest : List Segment} :
    Unopened (.text content :: rest) ↔
      ¬referenceOpening.toList <:+: content.toList ∧ Unopened rest := by
  simp [Unopened]

/-- What is kept under any policy is kept under the lenient one. -/
theorem Kept.literal (kept : Kept policy characters) : Kept .literal characters where
  unbraced := kept.unbraced
  unopened body whole := ⟨rfl, (kept.unopened body whole).2⟩

theorem Spelled.literal (spelled : Spelled policy segments characters) :
    Spelled .literal segments characters := by
  induction spelled with
  | nothing => exact .nothing
  | text filled apart whole kept _ inductionHypothesis =>
    exact .text filled apart whole (fun tail filledTail ends => (kept tail filledTail ends).literal)
      inductionHypothesis
  | placeholder identifier whole _ inductionHypothesis =>
    exact .placeholder identifier whole inductionHypothesis
  | reference names whole _ inductionHypothesis =>
    exact .reference names whole inductionHypothesis

theorem Spelled.unopened (spelled : Spelled .reject segments characters) : Unopened segments := by
  induction spelled with
  | nothing => simp [Unopened]
  | text filled apart whole kept onward inductionHypothesis =>
    have plain := (kept_tails_iff_plain (onward.bordered apart)).mp kept
    exact unopened_text_iff.mpr ⟨plain.unopened, inductionHypothesis⟩
  | placeholder _ _ _ inductionHypothesis => simpa [Unopened] using inductionHypothesis
  | reference _ _ _ inductionHypothesis => simpa [Unopened] using inductionHypothesis

/-- Without an opening to keep, a text is kept under the strict policy too. -/
theorem Spelled.reject (spelled : Spelled .literal segments characters)
    (unopened : Unopened segments) : Spelled .reject segments characters := by
  induction spelled with
  | nothing => exact .nothing
  | text filled apart whole kept onward inductionHypothesis =>
    obtain ⟨here, later⟩ := unopened_text_iff.mp unopened
    obtain ⟨unbraced, -⟩ := (kept_tails_iff (onward.bordered apart)).mp kept
    have onwardStrict := inductionHypothesis later
    have keptStrict := (kept_tails_iff_plain (onwardStrict.bordered apart)).mpr ⟨here, unbraced⟩
    exact .text filled apart whole keptStrict onwardStrict
  | placeholder identifier whole _ inductionHypothesis =>
    exact .placeholder identifier whole (inductionHypothesis (by simpa [Unopened] using unopened))
  | reference names whole _ inductionHypothesis =>
    exact .reference names whole (inductionHypothesis (by simpa [Unopened] using unopened))

theorem spelled_reject_iff_literal :
    Spelled .reject segments characters ↔
      Spelled .literal segments characters ∧ Unopened segments :=
  ⟨fun spelled => ⟨spelled.literal, spelled.unopened⟩,
    fun ⟨spelled, unopened⟩ => spelled.reject unopened⟩

/-- The strict policy reads what the lenient one reads, unless this has an opening in a text. -/
theorem parse_reject_eq_ok_iff {raw : String} {template : Template} :
    parse raw .reject = .ok template ↔
      parse raw .literal = .ok template ∧ Unopened template.segments := by
  rw [parse_eq_ok_iff, parse_eq_ok_iff, spelled_reject_iff_literal]

/-- A template without references is written as it was read. -/
theorem sourceText_of_parse {raw : String} {template : Template}
    (parsed : parse raw policy = .ok template) (free : template.references = []) :
    template.sourceText = raw := by
  rw [references_eq] at free
  rw [← String.toList_inj, toList_sourceText,
    eq_written_of_targets_eq_nil (parse_eq_ok_iff.mp parsed) free]

end Phrasebook.Template

/-! ### Entries -/

namespace Phrasebook.LeafEntry

open Template

/-- What is read under any policy is read the same under the lenient one. -/
theorem parse_literal_of_parse {raw : String} {policy : MalformedReferencePolicy}
    {entry : LeafEntry} (parsed : LeafEntry.parse raw policy = .ok entry) :
    LeafEntry.parse raw .literal = .ok entry := by
  obtain ⟨template, rfl, spelled⟩ := exists_template_of_parse parsed
  exact parse_eq_ok_ofTemplate_iff.mpr spelled.literal

end Phrasebook.LeafEntry
