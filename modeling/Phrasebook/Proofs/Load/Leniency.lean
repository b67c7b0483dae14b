/-
This file shows what looser options do to loading. A document that is accepted is accepted with
the same result if it may be larger or nested more deeply, or if malformed references would be
kept: there were none, and where there are none the policies agree. Loading goes through the
document once under each of the options, and at every member both do the same.
-/

import Phrasebook.Proofs.Load.Lookup
import Phrasebook.Proofs.Template.Policies

namespace Phrasebook

/-- What the first options allow the second allow as well: their bounds are no smaller, and
their policy is the same or the lenient one. -/
structure LoadOptions.AtMost (options other : LoadOptions) : Prop where
  bytes : options.maxDocumentBytes ≤ other.maxDocumentBytes
  depth : options.maxNestingDepth ≤ other.maxNestingDepth
  policy : other.malformedReference = options.malformedReference ∨
    other.malformedReference = .literal

variable {options other : LoadOptions}

/-! ### Members one by one -/

theorem LeafEntry.parse_of_atMost (atMost : options.AtMost other) {content : String}
    {entry : LeafEntry} (parsed : LeafEntry.parse content options.malformedReference = .ok entry) :
    LeafEntry.parse content other.malformedReference = .ok entry := by
  rcases atMost.policy with same | lenient
  · rw [same]
    exact parsed
  · rw [lenient]
    exact parse_literal_of_parse parsed

theorem Namespace.extend_of_each {parent : Option KeyPath} {depth : Nat}
    {children extended : Namespace} {members : List (String × Document)}
    (each : ∀ member ∈ members, ∀ path node,
      Node.ofDocument options path depth member.2 = .ok node →
        Node.ofDocument other path depth member.2 = .ok node)
    (made : extend options parent depth children members = .ok extended) :
    extend other parent depth children members = .ok extended := by
  induction members generalizing children with
  | nil =>
    rw [extend] at made ⊢
    exact made
  | cons member rest inductionHypothesis =>
    obtain ⟨key, document⟩ := member
    obtain ⟨here, later⟩ := List.forall_mem_cons.mp each
    obtain ⟨path, node, found, absent, read, onward⟩ := extend_cons_eq_ok_iff.mp made
    exact extend_cons_eq_ok_iff.mpr
      ⟨path, node, found, absent, here path node read, inductionHypothesis later onward⟩

theorem Namespace.ofMembers_of_each (atMost : options.AtMost other) {parent : Option KeyPath}
    {depth : Nat} {children : Namespace} {members : List (String × Document)}
    (each : ∀ member ∈ members, ∀ path node,
      Node.ofDocument options path depth member.2 = .ok node →
        Node.ofDocument other path depth member.2 = .ok node)
    (made : ofMembers options parent depth members = .ok children) :
    ofMembers other parent depth members = .ok children := by
  obtain ⟨shallow, extended⟩ := ofMembers_eq_ok_iff.mp made
  exact ofMembers_eq_ok_iff.mpr ⟨shallow.trans atMost.depth, extend_of_each each extended⟩

/-! ### Documents -/

theorem Node.ofDocument_of_atMost (atMost : options.AtMost other) {path : KeyPath} {depth : Nat}
    {document : Document} {node : Node}
    (made : Node.ofDocument options path depth document = .ok node) :
    Node.ofDocument other path depth document = .ok node := by
  induction document using Document.induction generalizing path depth node with
  | text content =>
    rw [ofDocument] at made ⊢
    cases parsed : LeafEntry.parse content options.malformedReference with
    | error fault => simp [parsed] at made
    | ok entry =>
      rw [parsed] at made
      rw [LeafEntry.parse_of_atMost atMost parsed]
      exact made
  | foreign kind =>
    rw [ofDocument] at made
    cases made
  | object members inductionHypothesis =>
    obtain ⟨children, read, rfl⟩ := ofDocument_object_eq_ok_iff.mp made
    refine ofDocument_object_eq_ok_iff.mpr ⟨children, ?_, rfl⟩
    refine Namespace.ofMembers_of_each atMost (fun member held path node => ?_) read
    exact inductionHypothesis member held

namespace Table

variable {table : Table}

theorem ofDocument_of_atMost (atMost : options.AtMost other) {document : Document}
    (made : ofDocument options document = .ok table) : ofDocument other document = .ok table := by
  cases document with
  | text content => cases made
  | foreign kind => cases made
  | object members =>
    rw [ofDocument_object_eq_ok_iff] at made ⊢
    exact Namespace.ofMembers_of_each atMost
      (fun _ _ _ _ => Node.ofDocument_of_atMost atMost) made

theorem checkSize_eq_ok_iff {size : Nat} :
    checkSize options size = .ok () ↔ size ≤ options.maxDocumentBytes := by
  unfold checkSize
  split
  · rename_i large
    simp [large]
  · rename_i small
    simp [Nat.not_lt.mp small]

theorem load_eq_ok_iff {bytes : ByteArray} :
    load bytes options = .ok table ↔
      bytes.size ≤ options.maxDocumentBytes ∧ ∃ text document,
        String.fromUTF8? bytes = some text ∧ Document.ofJson text = .ok document ∧
          ofDocument options document = .ok table := by
  rw [load, ← checkSize_eq_ok_iff]
  cases checkSize options bytes.size with
  | error fault => simp
  | ok done =>
    cases String.fromUTF8? bytes with
    | none => simp
    | some text => cases read : Document.ofJson text <;> simp [read]

/-- Bytes that make a table make the same table under looser options. -/
theorem load_of_atMost (atMost : options.AtMost other) {bytes : ByteArray}
    (loaded : load bytes options = .ok table) : load bytes other = .ok table := by
  obtain ⟨small, text, document, decoded, read, made⟩ := load_eq_ok_iff.mp loaded
  exact load_eq_ok_iff.mpr
    ⟨small.trans atMost.bytes, text, document, decoded, read, ofDocument_of_atMost atMost made⟩

end Table

/-- The policies agree wherever both succeed. The lenient one reads every text, the strict one
reads those in which the lenient one keeps no opening, and with the same result; a template
without references is written as it was read. So whatever loads under some options loads with
the same result under options that allow more. -/
theorem policies_agree :
    (∀ raw : String,
      (∃ template, Template.parse raw .literal = .ok template) ∧
      (∀ template, Template.parse raw .reject = .ok template ↔
        Template.parse raw .literal = .ok template ∧ Template.Unopened template.segments) ∧
      ∀ template, Template.parse raw .literal = .ok template → template.references = [] →
        template.sourceText = raw) ∧
    ∀ (options other : LoadOptions), options.AtMost other → ∀ (bytes : ByteArray) (table : Table),
      Table.load bytes options = .ok table → Table.load bytes other = .ok table := by
  constructor
  · intro raw
    refine ⟨Template.exists_parse_literal raw, fun template => Template.parse_reject_eq_ok_iff, ?_⟩
    exact fun template parsed free => Template.sourceText_of_parse parsed free
  · exact fun options other atMost bytes table loaded => Table.load_of_atMost atMost loaded

/-- A document with a placeholder and a reference, as it stands in a file. -/
def askDocument : ByteArray :=
  "\x7b\"ask\":\"Use [%key:thing%], \x7bname\x7d?\",\"thing\":\"it\"\x7d".toUTF8

theorem policies_agree_ask :
    Template.parse "see [%key:x" .literal = .ok (.ofSegments [.text "see [%key:x"]) ∧
    (Template.ofSegments [.text "see [%key:x"]).sourceText = "see [%key:x" ∧
    LoadOptions.AtMost {} { maxNestingDepth := 40, malformedReference := .literal } ∧
    ∃ table, Table.load askDocument {} = .ok table ∧
      Table.load askDocument { maxNestingDepth := 40, malformedReference := .literal } =
        .ok table := by
  have parsed :
      Template.parse "see [%key:x" .literal = .ok (.ofSegments [.text "see [%key:x"]) := by
    decide +kernel
  have atMost : LoadOptions.AtMost {} { maxNestingDepth := 40, malformedReference := .literal } :=
    ⟨by decide, by decide, Or.inr rfl⟩
  have succeeds : (Table.load askDocument {}).isOk := by decide +kernel
  obtain ⟨table, loaded⟩ := exists_of_isOk succeeds
  exact ⟨parsed, (policies_agree.1 _).2.2 _ parsed (by decide), atMost, table, loaded,
    policies_agree.2 _ _ atMost _ _ loaded⟩

end Phrasebook
