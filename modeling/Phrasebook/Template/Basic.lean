/-
This file defines templates, the bodies of display strings. A template is a list
of segments: literal text, placeholders that wait for a value, and references to
other strings. Templates are kept settled, which means that no text in them is
empty and no two texts stand side by side, so a template has one representation:
any list of segments settles by dropping the empty texts and joining neighbours.
-/

import Phrasebook.KeyPath

namespace Phrasebook

/-! ### Segments -/

/-- A piece of a template. -/
inductive Segment
  /-- Display text, shown as it stands. -/
  | text (content : String)
  /-- A value the caller supplies under this name. -/
  | placeholder (name : String)
  /-- The string at another path, shown in this place. -/
  | reference (target : KeyPath)
deriving DecidableEq

/-- What opens a reference. -/
def referenceOpening : String := "[%key:"

/-- What closes a reference. -/
def referenceClosing : String := "%]"

/-- A reference to `target` as it is written inside a string. -/
def referenceSource (target : KeyPath) : String :=
  referenceOpening ++ target.referenceForm ++ referenceClosing

namespace Segment

/-- The segment as it is written: references take their form with doubled colons. -/
def source : Segment → String
  | .text content => content
  | .placeholder name => "\x7b" ++ name ++ "\x7d"
  | .reference target => referenceSource target

/-- Whether a text comes first. -/
def leadsWithText : List Segment → Bool
  | .text _ :: _ => true
  | _ => false

/-- No text is empty and no two texts are neighbours. -/
def Settled : List Segment → Prop
  | [] => True
  | .text content :: rest => content ≠ "" ∧ leadsWithText rest = false ∧ Settled rest
  | .placeholder _ :: rest => Settled rest
  | .reference _ :: rest => Settled rest

/-- Puts a text before segments, joined to the text it meets. -/
def joinText (content : String) : List Segment → List Segment
  | .text later :: more => .text (content ++ later) :: more
  | rest => .text content :: rest

/-- Puts a segment before settled ones: an empty text vanishes, and a text joins the text
it meets. -/
def place : Segment → List Segment → List Segment
  | .text content, rest => if content = "" then rest else joinText content rest
  | .placeholder name, rest => .placeholder name :: rest
  | .reference target, rest => .reference target :: rest

/-- The settled form of any list of segments. -/
def settle (segments : List Segment) : List Segment :=
  segments.foldr place []

theorem settled_joinText {content : String} (filled : content ≠ "") {rest : List Segment}
    (settled : Settled rest) : Settled (joinText content rest) := by
  match rest, settled with
  | [], settled => exact ⟨filled, rfl, settled⟩
  | .placeholder _ :: _, settled => exact ⟨filled, rfl, settled⟩
  | .reference _ :: _, settled => exact ⟨filled, rfl, settled⟩
  | .text later :: more, settled =>
    refine ⟨?_, settled.2⟩
    intro joined
    exact filled (String.append_eq_empty_iff.mp joined).1

theorem settled_place (segment : Segment) {rest : List Segment} (settled : Settled rest) :
    Settled (segment.place rest) := by
  cases segment with
  | placeholder name => exact settled
  | reference target => exact settled
  | text content =>
    by_cases empty : content = ""
    · rw [place, if_pos empty]
      exact settled
    · rw [place, if_neg empty]
      exact settled_joinText empty settled

theorem settled_settle (segments : List Segment) : Settled (settle segments) := by
  induction segments with
  | nil => exact True.intro
  | cons segment rest inductionHypothesis =>
    exact settled_place segment inductionHypothesis

theorem joinText_of_leadsWithText {content : String} {rest : List Segment}
    (apart : leadsWithText rest = false) : joinText content rest = .text content :: rest := by
  match rest, apart with
  | [], _ => rfl
  | .placeholder _ :: _, _ => rfl
  | .reference _ :: _, _ => rfl

theorem place_of_settled {segment : Segment} {rest : List Segment}
    (settled : Settled (segment :: rest)) : segment.place rest = segment :: rest := by
  cases segment with
  | placeholder name => rfl
  | reference target => rfl
  | text content =>
    rw [place, if_neg settled.1]
    exact joinText_of_leadsWithText settled.2.1

/-- Settled segments are their own settled form. -/
theorem settle_of_settled {segments : List Segment} (settled : Settled segments) :
    settle segments = segments := by
  induction segments with
  | nil => rfl
  | cons segment rest inductionHypothesis =>
    have later : Settled rest := by
      cases segment with
      | placeholder name => exact settled
      | reference target => exact settled
      | text content => exact settled.2.2
    rw [settle, List.foldr_cons, ← settle, inductionHypothesis later, place_of_settled settled]

theorem joinText_append (first second : String) (rest : List Segment) :
    joinText (first ++ second) rest = joinText first (joinText second rest) := by
  match rest with
  | [] => rfl
  | .placeholder _ :: _ => rfl
  | .reference _ :: _ => rfl
  | .text later :: more => simp only [joinText, String.append_assoc]

/-- A text can be placed in two parts. -/
theorem place_text_append (first second : String) (rest : List Segment) :
    place (.text (first ++ second)) rest = place (.text first) (place (.text second) rest) := by
  by_cases emptyFirst : first = ""
  · simp [place, emptyFirst]
  · by_cases emptySecond : second = ""
    · simp [place, emptySecond]
    · simp [place, emptyFirst, emptySecond, joinText_append]

end Segment

/-! ### Templates -/

/-- The body of a display string. -/
structure Template where
  segments : List Segment
  settled : Segment.Settled segments
deriving DecidableEq

namespace Template

/-- The template that these segments settle to. -/
def ofSegments (segments : List Segment) : Template :=
  ⟨Segment.settle segments, Segment.settled_settle segments⟩

/-- The names of the placeholders, each once, in the order of their first appearance. -/
def placeholders (template : Template) : List String :=
  (template.segments.filterMap fun
    | .placeholder name => some name
    | _ => none).eraseDups

/-- The targets of the references, in order, repeated ones kept. -/
def references (template : Template) : List KeyPath :=
  template.segments.filterMap fun
    | .reference target => some target
    | _ => none

/-- Whether the template is text and nothing else. -/
def isPlain (template : Template) : Bool :=
  template.segments.all fun
    | .text _ => true
    | _ => false

/-- The template as it is written. -/
def sourceText (template : Template) : String :=
  String.join (template.segments.map Segment.source)

end Template

/-! ### Leaf entries -/

/-- What a table holds at a key: a template of its own, or the order to use another key's
entry in its place. -/
inductive LeafEntry
  | literal (template : Template)
  | redirect (target : KeyPath)
deriving DecidableEq

namespace LeafEntry

/-- A template that is one reference and nothing else redirects. -/
def ofTemplate (template : Template) : LeafEntry :=
  match template.segments with
  | [.reference target] => .redirect target
  | _ => .literal template

/-- The entry as it is written. -/
def sourceText : LeafEntry → String
  | .literal template => template.sourceText
  | .redirect target => referenceSource target

end LeafEntry

end Phrasebook
