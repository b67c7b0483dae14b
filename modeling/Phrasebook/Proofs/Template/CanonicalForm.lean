/-
This file shows that settled segments are a canonical form. Settling drops the empty
texts and joins neighbours, so whatever sees neither empty texts nor the borders between
texts is the same before and after: the placeholders and references, the texts around
them, what is written, and what comes of further segments. The placeholders and
references with the texts around them are all that is left, since the settled form can
be put together from them again. So two lists have the same settled form exactly when
they agree in these.
-/

import Mathlib.Data.List.Chain
import Phrasebook.Template.Basic

namespace Phrasebook

namespace Segment

/-! ### Settled segments -/

/-- Whether the segment is text. -/
def isText : Segment → Bool
  | .text _ => true
  | .placeholder _ => false
  | .reference _ => false

@[simp]
theorem isText_text (content : String) : (text content).isText = true := rfl

theorem ne_empty_of_settled {segments : List Segment} (settled : Settled segments)
    {content : String} (member : .text content ∈ segments) : content ≠ "" := by
  induction segments with
  | nil => cases member
  | cons segment rest inductionHypothesis =>
    cases segment with
    | text other =>
      rcases List.mem_cons.mp member with same | later
      · cases same
        exact settled.1
      · exact inductionHypothesis settled.2.2 later
    | placeholder name =>
      exact inductionHypothesis settled (List.mem_of_ne_of_mem (by simp) member)
    | reference target =>
      exact inductionHypothesis settled (List.mem_of_ne_of_mem (by simp) member)

theorem isText_of_mem_head? {segments : List Segment} (apart : leadsWithText segments = false)
    {first : Segment} (leads : first ∈ segments.head?) : first.isText = false := by
  match segments, apart, leads with
  | .placeholder _ :: _, _, rfl => rfl
  | .reference _ :: _, _, rfl => rfl

theorem isChain_of_settled {segments : List Segment} (settled : Settled segments) :
    segments.IsChain fun first second => ¬(first.isText ∧ second.isText) := by
  induction segments with
  | nil => exact List.isChain_nil
  | cons segment rest inductionHypothesis =>
    rw [List.isChain_cons]
    cases segment with
    | placeholder name =>
      exact ⟨fun _ _ both => Bool.false_ne_true both.1, inductionHypothesis settled⟩
    | reference target =>
      exact ⟨fun _ _ both => Bool.false_ne_true both.1, inductionHypothesis settled⟩
    | text content =>
      refine ⟨fun first leads both => ?_, inductionHypothesis settled.2.2⟩
      rw [isText_of_mem_head? settled.2.1 leads] at both
      exact nomatch both.2

/-! ### What settling leaves as it is -/

/-- What is seen of segments sees no empty texts and no borders between texts. -/
structure SeesNoBorders {View : Type} (view : List Segment → View) : Prop where
  empty : ∀ rest, view (.text "" :: rest) = view rest
  joined : ∀ first second rest,
    view (.text (first ++ second) :: rest) = view (.text first :: .text second :: rest)
  behind : ∀ segment {rest other}, view rest = view other →
    view (segment :: rest) = view (segment :: other)

namespace SeesNoBorders

variable {View : Type} {view : List Segment → View}

theorem place (blind : SeesNoBorders view) (segment : Segment) (rest : List Segment) :
    view (segment.place rest) = view (segment :: rest) := by
  cases segment with
  | placeholder name => rfl
  | reference target => rfl
  | text content =>
    by_cases empty : content = ""
    · rw [Segment.place, if_pos empty, empty, blind.empty]
    · rw [Segment.place, if_neg empty]
      cases rest with
      | nil => rfl
      | cons next more =>
        cases next with
        | text later => exact blind.joined content later more
        | placeholder name => rfl
        | reference target => rfl

theorem settle (blind : SeesNoBorders view) (segments : List Segment) :
    view (Segment.settle segments) = view segments := by
  induction segments with
  | nil => rfl
  | cons segment rest inductionHypothesis =>
    exact (blind.place segment _).trans (blind.behind segment inductionHypothesis)

end SeesNoBorders

/-- Segments put before settled ones. -/
theorem seesNoBorders_foldr_place (behind : List Segment) :
    SeesNoBorders fun segments => segments.foldr place behind where
  empty := fun _ => rfl
  joined := fun first second _ => place_text_append first second _
  behind := fun segment _ _ same => congrArg segment.place same

/-- It does not matter whether parts are settled before the whole is. -/
theorem settle_append_settle (segments other : List Segment) :
    settle (settle segments ++ settle other) = settle (segments ++ other) := by
  have idle : settle (settle other) = settle other := settle_of_settled (settled_settle other)
  calc settle (settle segments ++ settle other)
      = (settle segments).foldr place (settle (settle other)) := List.foldr_append
    _ = segments.foldr place (settle other) := by
      rw [idle]
      exact (seesNoBorders_foldr_place (settle other)).settle segments
    _ = settle (segments ++ other) := List.foldr_append.symm

/-- What is written. -/
theorem seesNoBorders_source :
    SeesNoBorders fun segments => String.join (segments.map source) where
  empty := by
    intro rest
    simp [source]
  joined := by
    intro first second rest
    simp [source, String.append_assoc]
  behind := by
    intro segment rest other same
    rw [List.map_cons, List.map_cons, String.join_cons, String.join_cons, same]

/-! ### Tokens and the texts around them -/

/-- The placeholders and references, in order. -/
def tokens (segments : List Segment) : List Segment :=
  segments.filter fun segment => !segment.isText

/-- The texts before the first token, between tokens and behind the last one, each the texts
that stand there put together. -/
def textsAround (segments : List Segment) : List String :=
  (segments.splitOnP fun segment => !segment.isText).map fun run =>
    String.join (run.map source)

theorem textsAround_text (content : String) (rest : List Segment) :
    textsAround (.text content :: rest) = (textsAround rest).modifyHead (content ++ ·) := by
  obtain ⟨run, runs, split⟩ := List.exists_cons_of_ne_nil
    (List.splitOnP_ne_nil (fun segment => !segment.isText) rest)
  simp [textsAround, List.splitOnP_cons_eq_if_modifyHead, split, source]

theorem textsAround_token {token : Segment} (isToken : token.isText = false)
    (rest : List Segment) : textsAround (token :: rest) = "" :: textsAround rest := by
  simp [textsAround, List.splitOnP_cons_eq_if_modifyHead, isToken]

theorem tokens_text (content : String) (rest : List Segment) :
    tokens (.text content :: rest) = tokens rest := rfl

theorem tokens_token {token : Segment} (isToken : token.isText = false) (rest : List Segment) :
    tokens (token :: rest) = token :: tokens rest := by
  simp [tokens, isToken]

theorem seesNoBorders_tokens : SeesNoBorders tokens where
  empty := fun _ => rfl
  joined := fun _ _ _ => rfl
  behind := by
    intro segment rest other same
    cases kind : segment.isText with
    | true => simpa [tokens, kind] using same
    | false => rw [tokens_token kind, tokens_token kind, same]

theorem seesNoBorders_textsAround : SeesNoBorders textsAround where
  empty := by
    intro rest
    rw [textsAround_text]
    simp only [String.empty_append]
    exact congrFun List.modifyHead_id _
  joined := by
    intro first second rest
    simp only [textsAround_text, List.modifyHead_modifyHead, Function.comp_def,
      String.append_assoc]
  behind := by
    intro segment rest other same
    cases segment with
    | text content => rw [textsAround_text, textsAround_text, same]
    | placeholder name => rw [textsAround_token rfl, textsAround_token rfl, same]
    | reference target => rw [textsAround_token rfl, textsAround_token rfl, same]

/-! ### Putting segments together again -/

/-- Texts and tokens in turn, the empty texts left out. -/
def alternate : List String → List Segment → List Segment
  | [], _ => []
  | content :: _, [] => place (.text content) []
  | content :: contents, token :: others =>
    place (.text content) (token :: alternate contents others)

theorem place_alternate (content : String) {contents : List String} (filled : contents ≠ [])
    (others : List Segment) :
    place (.text content) (alternate contents others) =
      alternate (contents.modifyHead (content ++ ·)) others := by
  match contents, others with
  | [], _ => exact absurd rfl filled
  | first :: _, [] => exact (place_text_append content first []).symm
  | first :: rest, token :: more => exact (place_text_append content first _).symm

/-- The settled form has nothing in it but the tokens and the texts around them. -/
theorem settle_eq_alternate (segments : List Segment) :
    settle segments = alternate (textsAround segments) (tokens segments) := by
  induction segments with
  | nil => rfl
  | cons segment rest inductionHypothesis =>
    have placed : settle (segment :: rest) = segment.place (settle rest) := rfl
    rw [placed, inductionHypothesis]
    cases segment with
    | text content =>
      have filled : textsAround rest ≠ [] := by
        simp [textsAround, List.splitOnP_ne_nil]
      rw [textsAround_text, tokens_text, place_alternate content filled]
    | placeholder name =>
      rw [textsAround_token rfl, tokens_token rfl]
      rfl
    | reference target =>
      rw [textsAround_token rfl, tokens_token rfl]
      rfl

example : settle [.text "", .text "to ", .placeholder "a", .placeholder "b", .text "!"] =
    alternate ["to ", "", "!"] [.placeholder "a", .placeholder "b"] := by decide

/-- Settled forms are the same exactly when the tokens and the texts around them are. -/
theorem settle_eq_settle_iff {segments other : List Segment} :
    settle segments = settle other ↔
      tokens segments = tokens other ∧ textsAround segments = textsAround other := by
  constructor
  · intro same
    rw [← seesNoBorders_tokens.settle segments, ← seesNoBorders_textsAround.settle segments, same]
    exact ⟨seesNoBorders_tokens.settle other, seesNoBorders_textsAround.settle other⟩
  · rintro ⟨sameTokens, sameTexts⟩
    rw [settle_eq_alternate, settle_eq_alternate, sameTokens, sameTexts]

end Segment

namespace Template

open Segment

theorem ofSegments_eq_ofSegments_iff {segments other : List Segment} :
    ofSegments segments = ofSegments other ↔ settle segments = settle other := by
  rw [ofSegments, ofSegments, mk.injEq]

/-- Templates are a canonical form of segments. A template has no empty text and no neighbouring
texts, and the same tokens and the same text written as the segments it is made from; made again
from its own segments, or in parts, it is the same. Two lists of segments give the same template
exactly when they have the same tokens and the same texts before, between and behind them. -/
theorem ofSegments_canonical (segments : List Segment) :
    (∀ content, .text content ∈ (ofSegments segments).segments → content ≠ "") ∧
    ((ofSegments segments).segments.IsChain fun first second =>
      ¬(first.isText ∧ second.isText)) ∧
    tokens (ofSegments segments).segments = tokens segments ∧
    (ofSegments segments).sourceText = String.join (segments.map source) ∧
    ofSegments (ofSegments segments).segments = ofSegments segments ∧
    (∀ other, ofSegments (segments ++ other) =
      ofSegments ((ofSegments segments).segments ++ (ofSegments other).segments)) ∧
    ∀ other, ofSegments segments = ofSegments other ↔
      tokens segments = tokens other ∧ textsAround segments = textsAround other := by
  have settled := settled_settle segments
  refine ⟨fun _ => ne_empty_of_settled settled, isChain_of_settled settled,
    seesNoBorders_tokens.settle segments, seesNoBorders_source.settle segments, ?_, ?_, ?_⟩
  · exact ofSegments_eq_ofSegments_iff.mpr (settle_of_settled (settled_settle _))
  · intro other
    exact ofSegments_eq_ofSegments_iff.mpr (settle_append_settle segments other).symm
  · intro other
    rw [ofSegments_eq_ofSegments_iff, settle_eq_settle_iff]

end Template

end Phrasebook
