/-
This file shows that key paths are canonical. Whatever way a path was made, it has
segments, all of them well-formed, and its spelling with dots names it and no other
path. Reading accepts two spellings of a path and no third: apart from blanks around
it, a text that names a path joins its segments by dots or by doubled colons,
because the pieces of a cut joined again are the text that was cut.
-/

import Phrasebook.KeyPath.Json
import Phrasebook.Proofs.KeyPath.RoundTrip

namespace Phrasebook.KeyPath

open Text

/-! ### Ways to a path -/

/-- The path was read from a text or from JSON, listed segment by segment, or made by going
down from a path that was obtained before. -/
inductive Obtained : KeyPath → Prop
  | parsed {text : String} {path : KeyPath} (read : parse text = .ok path) : Obtained path
  | decoded {json : String} {path : KeyPath} (read : ofJson json = .ok path) : Obtained path
  | listed {segments : List String} {path : KeyPath} (made : ofSegments segments = .ok path) :
      Obtained path
  | extended {parent path : KeyPath} {segment : String} (obtained : Obtained parent)
      (made : parent.child segment = .ok path) : Obtained path

/-! ### The spellings that are read -/

theorem toList_referenceForm (path : KeyPath) :
    path.referenceForm.toList =
      referenceSeparator.intercalate (path.segments.map String.toList) := by
  rw [referenceForm, String.toList_intercalate]
  rfl

theorem intercalate_pieces (trimmed : List Char) :
    ['.'].intercalate (pieces trimmed) = trimmed ∨
      referenceSeparator.intercalate (pieces trimmed) = trimmed := by
  unfold pieces
  split
  · exact Or.inr (intercalate_splitDoubled ':' trimmed)
  · exact Or.inl (List.intercalate_splitOn '.')

theorem map_toList_segments_of_parse {text : String} {path : KeyPath}
    (read : parse text = .ok path) :
    path.segments.map String.toList = pieces (trimChars text.toList) := by
  simp only [parse] at read
  split_ifs at read
  rw [segments_of_ofSegments read, List.map_map]
  exact List.map_id'' (fun piece => String.toList_ofList) _

/-- A text that is read as a path is one of its two spellings, apart from blanks around it. -/
theorem trim_of_parse {text : String} {path : KeyPath} (read : parse text = .ok path) :
    trim text = path.dotted ∨ trim text = path.referenceForm := by
  have joined := intercalate_pieces (trimChars text.toList)
  rw [← map_toList_segments_of_parse read, ← toList_dotted, ← toList_referenceForm] at joined
  rw [← String.toList_inj, ← String.toList_inj, toList_trim]
  exact joined.imp Eq.symm Eq.symm

/-- A segment of a path stands in any text that the path is read from. -/
theorem infix_of_mem_segments {text segment : String} {path : KeyPath}
    (read : parse text = .ok path) (member : segment ∈ path.segments) :
    segment.toList <:+: text.toList := by
  have listed : segment.toList ∈ path.segments.map String.toList := List.mem_map_of_mem member
  have trimmed : segment.toList <:+: trimChars text.toList := by
    rw [map_toList_segments_of_parse read] at listed
    rcases intercalate_pieces (trimChars text.toList) with joined | joined
    · exact joined ▸ infix_intercalate_of_mem listed
    · exact joined ▸ infix_intercalate_of_mem listed
  exact trimmed.trans (isInfix_trimChars _)

theorem eq_of_dotted_eq {first second : KeyPath} (same : first.dotted = second.dotted) :
    first = second := by
  have read := first.parse_dotted
  rw [same, second.parse_dotted] at read
  cases read
  rfl

/-- Key paths are canonical: every path, and each of them can be obtained, has segments, all
well-formed, is named by its spelling with dots, shares this spelling with no other path, and
is read from its two spellings only. -/
theorem canonical (path : KeyPath) :
    path.Obtained ∧ path.segments ≠ [] ∧
      (∀ segment ∈ path.segments, checkSegment segment = .ok ()) ∧
      parse path.dotted = .ok path ∧
      (∀ other : KeyPath, other.dotted = path.dotted → other = path) ∧
      ∀ text, parse text = .ok path →
        trim text = path.dotted ∨ trim text = path.referenceForm := by
  refine ⟨.listed path.ofSegments_segments, path.nonempty, path.wellFormed, path.parse_dotted,
    fun other same => eq_of_dotted_eq same, fun text read => trim_of_parse read⟩

end Phrasebook.KeyPath
