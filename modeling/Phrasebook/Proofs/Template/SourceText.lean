/-
This file says when a template that is written out and read again is the same. What
is written differs from what was read in the spelling of references only, so
nothing can change at a text without openings, at a placeholder, or at a reference
whose path is read back from its spelling with doubled colons. That is all there is
under the strict policy. Under the literal policy a malformed opening may stand in
a text, and whether it is malformed depends on what stands behind it: a later
reference, once it is written with doubled colons, may make a path of what was none
before. So there the openings have to stay malformed as well, and they need not.
-/

import Phrasebook.Proofs.KeyPath.Canonical
import Phrasebook.Proofs.Resolve.Unfolding
import Phrasebook.Proofs.Template.Grammar

namespace Phrasebook

namespace Template

open Text Segment

/-! ### Writing -/

/-- The segments as they are written. -/
def written (segments : List Segment) : List Char :=
  segments.flatMap fun segment => segment.source.toList

theorem toList_sourceText (template : Template) :
    template.sourceText.toList = written template.segments := by
  simp [sourceText, written, List.flatMap_map]

theorem written_text (content : String) (rest : List Segment) :
    written (.text content :: rest) = content.toList ++ written rest := rfl

theorem written_placeholder (name : String) (rest : List Segment) :
    written (.placeholder name :: rest) = braced name.toList ++ written rest := by
  simp [written, source, braced]

theorem written_reference (target : KeyPath) (rest : List Segment) :
    written (.reference target :: rest) =
      bracketed target.referenceForm.toList ++ written rest := by
  simp [written, source, referenceSource, bracketed]

/-- A reference is not closed too early when it is written, as its segments stand in the text
that it was read from. -/
theorem Names.unclosed_referenceForm {inner : List Char} {target : KeyPath}
    (names : Names inner target) : ¬referenceClosing.toList <:+: target.referenceForm.toList := by
  intro closed
  rw [KeyPath.toList_referenceForm] at closed
  obtain ⟨piece, member, inside⟩ := exists_mem_of_pair_infix_intercalate
    (List.cons_ne_nil _ _) (by decide) (by decide) closed
  obtain ⟨segment, listed, rfl⟩ := List.mem_map.mp member
  have stands := KeyPath.infix_of_mem_segments names.read listed
  rw [String.toList_ofList] at stands
  exact names.unclosed (inside.trans stands)

/-! ### Reading what is written -/

/-- The openings in texts are malformed in front of what is written behind them. -/
def OpeningsStay : List Segment → Prop
  | [] => True
  | .text content :: rest =>
    (∀ body, referenceOpening.toList ++ body <:+ content.toList →
      Malformed (body ++ written rest)) ∧ OpeningsStay rest
  | .placeholder _ :: rest => OpeningsStay rest
  | .reference _ :: rest => OpeningsStay rest

variable {policy : MalformedReferencePolicy} {segments rest : List Segment}
  {characters after : List Char}

theorem spelled_text_iff {content : String} :
    Spelled policy (.text content :: rest) (content.toList ++ after) ↔
      (content ≠ "" ∧ leadsWithText rest = false ∧
        ∀ tail, tail ≠ [] → tail <:+ content.toList → Kept policy (tail ++ after)) ∧
      Spelled policy rest after := by
  constructor
  · intro spelled
    cases spelled with
    | text filled apart whole kept onward =>
      cases List.append_cancel_left whole
      exact ⟨⟨filled, apart, kept⟩, onward⟩
  · rintro ⟨⟨filled, apart, kept⟩, onward⟩
    exact .text filled apart rfl kept onward

theorem spelled_placeholder_written_iff {name : String} (identifier : isIdentifier name) :
    Spelled policy (.placeholder name :: rest) (braced name.toList ++ after) ↔
      Spelled policy rest after := by
  rw [spelled_placeholder_iff identifier, String.ofList_toList]
  simp

theorem spelled_reference_written_iff {inner : List Char} {target : KeyPath}
    (unclosed : ¬referenceClosing.toList <:+: inner) :
    Spelled policy (.reference target :: rest) (bracketed inner ++ after) ↔
      KeyPath.parse (String.ofList inner) = .ok target ∧ Spelled policy rest after := by
  constructor
  · intro spelled
    cases spelled with
    | reference names whole onward =>
      obtain ⟨rfl, rfl⟩ := unclosed_append_inj unclosed names.unclosed whole
      exact ⟨names.read, onward⟩
  · rintro ⟨read, onward⟩
    exact .reference ⟨unclosed, read⟩ rfl onward

/-- Segments that were read are read again from what they are written as exactly when each
reference is read from its spelling with doubled colons and the openings stay malformed. -/
theorem spelled_written_iff (spelled : Spelled policy segments characters) :
    Spelled policy segments (written segments) ↔
      (∀ target ∈ targets segments, KeyPath.parse target.referenceForm = .ok target) ∧
        OpeningsStay segments := by
  induction spelled with
  | nothing => simp [written, spelled_nil_iff, targets, OpeningsStay]
  | @text content rest _ after filled apart whole kept onward inductionHypothesis =>
    obtain ⟨unbraced, opened⟩ := (kept_tails_iff (onward.bordered apart)).mp kept
    rw [written_text, spelled_text_iff, inductionHypothesis]
    constructor
    · rintro ⟨⟨-, -, keptWritten⟩, canonical, stay⟩
      have onwardWritten := inductionHypothesis.mpr ⟨canonical, stay⟩
      have openedWritten := (kept_tails_iff (onwardWritten.bordered apart)).mp keptWritten
      exact ⟨canonical, fun body ends => (openedWritten.2 body ends).2, stay⟩
    · rintro ⟨canonical, openings, stay⟩
      have onwardWritten := inductionHypothesis.mpr ⟨canonical, stay⟩
      refine ⟨⟨filled, apart, ?_⟩, canonical, stay⟩
      refine (kept_tails_iff (onwardWritten.bordered apart)).mpr ⟨unbraced, ?_⟩
      exact fun body ends => ⟨(opened body ends).1, openings body ends⟩
  | placeholder identifier whole onward inductionHypothesis =>
    rw [written_placeholder, spelled_placeholder_written_iff identifier, inductionHypothesis]
    rfl
  | @reference target inner rest _ after names whole onward inductionHypothesis =>
    rw [written_reference, spelled_reference_written_iff names.unclosed_referenceForm,
      String.ofList_toList, inductionHypothesis, targets, List.forall_mem_cons, and_assoc]
    rfl

/-- Under the strict policy no opening stands in a text. -/
theorem openingsStay_of_spelled_reject (spelled : Spelled .reject segments characters) :
    OpeningsStay segments := by
  induction spelled with
  | nothing => exact True.intro
  | text filled apart whole kept onward inductionHypothesis =>
    refine ⟨fun body ends => ?_, inductionHypothesis⟩
    have opened := ((kept_tails_iff (onward.bordered apart)).mp kept).2 body ends
    cases opened.1
  | placeholder _ _ _ inductionHypothesis => exact inductionHypothesis
  | reference _ _ _ inductionHypothesis => exact inductionHypothesis

/-- Without references segments are written as they were read. -/
theorem eq_written_of_targets_eq_nil (spelled : Spelled policy segments characters)
    (free : targets segments = []) : characters = written segments := by
  induction spelled with
  | nothing => rfl
  | text _ _ whole _ _ inductionHypothesis =>
    rw [written_text, whole, inductionHypothesis free]
  | placeholder _ whole _ inductionHypothesis =>
    rw [written_placeholder, whole, inductionHypothesis free]
  | reference => cases free

end Template

/-! ### Entries -/

namespace LeafEntry

open Template

theorem segments_ofTemplate (template : Template) :
    (ofTemplate template).segments = template.segments := by
  unfold ofTemplate
  split
  · rename_i target alone
    exact alone.symm
  · rfl

theorem toList_sourceText_ofTemplate (template : Template) :
    (ofTemplate template).sourceText.toList = written template.segments := by
  unfold ofTemplate
  split
  · rename_i target alone
    rw [alone, sourceText]
    simp [written, Segment.source]
  · exact template.toList_sourceText

theorem ofTemplate_injective {first second : Template}
    (same : ofTemplate first = ofTemplate second) : first = second := by
  have segments := congrArg segments same
  rw [segments_ofTemplate, segments_ofTemplate] at segments
  cases first
  cases second
  cases segments
  rfl

/-- An entry that is read comes from a template, whose segments the text spells. -/
theorem exists_template_of_parse {raw : String} {policy : MalformedReferencePolicy}
    {entry : LeafEntry} (parsed : LeafEntry.parse raw policy = .ok entry) :
    ∃ template, entry = ofTemplate template ∧ Spelled policy template.segments raw.toList := by
  unfold LeafEntry.parse at parsed
  split at parsed
  · cases parsed
  · rename_i template read
    cases parsed
    exact ⟨template, rfl, parse_eq_ok_iff.mp read⟩

theorem parse_eq_ok_ofTemplate_iff {raw : String} {policy : MalformedReferencePolicy}
    {template : Template} :
    LeafEntry.parse raw policy = .ok (ofTemplate template) ↔
      Spelled policy template.segments raw.toList := by
  constructor
  · intro parsed
    obtain ⟨other, same, spelled⟩ := exists_template_of_parse parsed
    rw [ofTemplate_injective same]
    exact spelled
  · intro spelled
    rw [LeafEntry.parse, parse_eq_ok_iff.mpr spelled]

/-- An entry is read again from its source text exactly when each reference is read from its
spelling with doubled colons and the openings stay malformed. -/
theorem parse_sourceText_iff {raw : String} {policy : MalformedReferencePolicy}
    {entry : LeafEntry} (parsed : LeafEntry.parse raw policy = .ok entry) :
    LeafEntry.parse entry.sourceText policy = .ok entry ↔
      (∀ target ∈ entry.targets, KeyPath.parse target.referenceForm = .ok target) ∧
        OpeningsStay entry.segments := by
  obtain ⟨template, rfl, spelled⟩ := exists_template_of_parse parsed
  rw [parse_eq_ok_ofTemplate_iff, toList_sourceText_ofTemplate, spelled_written_iff spelled,
    targets_eq, segments_ofTemplate]

/-- Under the strict policy an entry is read again from its source text exactly when each
reference is read from its spelling with doubled colons, and without references its source
text is what it was read from. -/
theorem parse_sourceText_reject {raw : String} {entry : LeafEntry}
    (parsed : LeafEntry.parse raw .reject = .ok entry) :
    (LeafEntry.parse entry.sourceText .reject = .ok entry ↔
      ∀ target ∈ entry.targets, KeyPath.parse target.referenceForm = .ok target) ∧
    (entry.targets = [] → entry.sourceText = raw) := by
  have again := parse_sourceText_iff parsed
  obtain ⟨template, rfl, spelled⟩ := exists_template_of_parse parsed
  rw [segments_ofTemplate, and_iff_left (openingsStay_of_spelled_reject spelled)] at again
  refine ⟨again, fun free => ?_⟩
  rw [targets_eq, segments_ofTemplate] at free
  rw [← String.toList_inj, toList_sourceText_ofTemplate, eq_written_of_targets_eq_nil spelled free]

/-- The path of an entry in a menu. -/
def menuOpen : KeyPath := ⟨["menu", "open"], by decide, by decide⟩

/-- A text, a reference, another text and a placeholder. -/
def pressOpen : LeafEntry :=
  .literal (.ofSegments [.text "Press ", .reference menuOpen, .text ", ", .placeholder "name"])

theorem parse_sourceText_pressOpen :
    LeafEntry.parse "Press [%key: menu.open %], \x7bname\x7d" .reject = .ok pressOpen ∧
      LeafEntry.parse pressOpen.sourceText .reject = .ok pressOpen := by
  have parsed : LeafEntry.parse "Press [%key: menu.open %], \x7bname\x7d" .reject =
      .ok pressOpen := by decide +kernel
  exact ⟨parsed, (parse_sourceText_reject parsed).1.mpr (by decide +kernel)⟩

/-- Under the literal policy an entry is read again from its source text exactly when each
reference is read from its spelling with doubled colons and each opening that was kept is
malformed in the source text too. -/
theorem parse_sourceText_literal_iff {raw : String} {entry : LeafEntry}
    (parsed : LeafEntry.parse raw .literal = .ok entry) :
    LeafEntry.parse entry.sourceText .literal = .ok entry ↔
      (∀ target ∈ entry.targets, KeyPath.parse target.referenceForm = .ok target) ∧
        OpeningsStay entry.segments :=
  parse_sourceText_iff parsed

/-- An opening that was kept, as what follows it has doubled colons and a dot, and a reference.
Written with doubled colons alone it opens a reference. -/
def nestedOpen : LeafEntry :=
  .literal (.ofSegments [.text "[%key:menu::", .reference menuOpen])

theorem not_openingsStay_nestedOpen :
    LeafEntry.parse "[%key:menu::[%key:menu.open%]" .literal = .ok nestedOpen ∧
      ¬OpeningsStay nestedOpen.segments := by
  have parsed : LeafEntry.parse "[%key:menu::[%key:menu.open%]" .literal = .ok nestedOpen := by
    decide +kernel
  refine ⟨parsed, fun stay => ?_⟩
  have again := (parse_sourceText_literal_iff parsed).mpr ⟨by decide +kernel, stay⟩
  revert again
  decide +kernel

theorem parse_sourceText_nestedOpen_ne :
    LeafEntry.parse "[%key:menu::[%key:menu.open%]" .literal = .ok nestedOpen ∧
      (∀ target ∈ nestedOpen.targets, KeyPath.parse target.referenceForm = .ok target) ∧
      LeafEntry.parse nestedOpen.sourceText .literal ≠ .ok nestedOpen := by
  decide +kernel

end LeafEntry

end Phrasebook
