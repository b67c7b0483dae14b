/-
This file shows that the spelling of a path with dots can be read back. A segment
holds no separator, and a doubled colon cannot arise where segments meet at a dot,
so the spelling is cut at its dots and nowhere else. It is not trimmed either, as
its outer segments are trimmed already.
-/

import Phrasebook.KeyPath
import Phrasebook.Proofs.Text.Blank
import Phrasebook.Proofs.Text.Search

namespace Phrasebook

open Text

/-! ### Segments -/

theorem checkSegment_eq_ok_iff {segment : String} :
    checkSegment segment = .ok () ↔
      segment ≠ "" ∧ Text.trim segment = segment ∧ holdsSeparator segment.toList = false := by
  unfold checkSegment
  split_ifs with empty padded separated
  · simp [empty]
  · simp [padded]
  · simp [separated]
  · rw [Bool.not_eq_true] at separated
    exact ⟨fun _ => ⟨empty, not_not.mp padded, separated⟩, fun _ => rfl⟩

/-- What a segment that is accepted looks like. -/
structure WellFormedSegment (characters : List Char) : Prop where
  filled : characters ≠ []
  tight : Tight characters
  undotted : '.' ∉ characters
  undoubled : ¬referenceSeparator <:+: characters

theorem wellFormed_of_checkSegment {segment : String}
    (checked : checkSegment segment = .ok ()) : WellFormedSegment segment.toList := by
  obtain ⟨filled, trimmed, whole⟩ := checkSegment_eq_ok_iff.mp checked
  rw [holdsSeparator, Bool.or_eq_false_iff] at whole
  refine ⟨?_, ?_, ?_, ?_⟩
  · intro empty
    exact filled (String.toList_eq_nil_iff.mp empty)
  · refine trimChars_eq_self_iff.mp ?_
    rw [← toList_trim, trimmed]
  · intro member
    rw [List.contains_iff_mem.mpr member] at whole
    cases whole.1
  · intro occurs
    rw [occurs_iff.mpr occurs] at whole
    cases whole.2

/-! ### Joined segments -/

theorem intercalate_ne_nil {separator first : List Char} {rest : List (List Char)}
    (filled : first ≠ []) : separator.intercalate (first :: rest) ≠ [] := by
  cases rest with
  | nil =>
    rw [List.intercalate_singleton]
    exact filled
  | cons second more =>
    rw [List.intercalate_cons_cons, List.append_assoc]
    exact List.append_ne_nil_of_left_ne_nil filled _

theorem tight_intercalate {pieces : List (List Char)} (separator : List Char)
    (wellFormed : ∀ piece ∈ pieces, WellFormedSegment piece) :
    Tight (separator.intercalate pieces) := by
  induction pieces with
  | nil => exact ⟨(fun _ absent => nomatch absent), (fun _ absent => nomatch absent)⟩
  | cons first rest inductionHypothesis =>
    obtain ⟨here, later⟩ := List.forall_mem_cons.mp wellFormed
    cases rest with
    | nil =>
      rw [List.intercalate_singleton]
      exact here.tight
    | cons second more =>
      rw [List.intercalate_cons_cons]
      refine here.tight.append (inductionHypothesis later) here.filled ?_ separator
      exact intercalate_ne_nil (later second List.mem_cons_self).filled

theorem undoubled_intercalate {pieces : List (List Char)}
    (wellFormed : ∀ piece ∈ pieces, WellFormedSegment piece) :
    ¬referenceSeparator <:+: ['.'].intercalate pieces := by
  intro occurs
  obtain ⟨piece, member, inside⟩ := exists_mem_of_pair_infix_intercalate
    (List.cons_ne_nil _ _) (by decide) (by decide) occurs
  exact (wellFormed piece member).undoubled inside

namespace KeyPath

variable (path : KeyPath)

theorem toList_dotted :
    path.dotted.toList = ['.'].intercalate (path.segments.map String.toList) := by
  rw [dotted, String.toList_intercalate]
  rfl

theorem wellFormedSegment_of_mem :
    ∀ piece ∈ path.segments.map String.toList, WellFormedSegment piece := by
  intro piece member
  obtain ⟨segment, inside, rfl⟩ := List.mem_map.mp member
  exact wellFormed_of_checkSegment (path.wellFormed segment inside)

theorem pieces_dotted : pieces path.dotted.toList = path.segments.map String.toList := by
  have wellFormed := path.wellFormedSegment_of_mem
  have undoubled : ¬Text.occurs referenceSeparator path.dotted.toList := by
    rw [occurs_iff, toList_dotted]
    exact undoubled_intercalate wellFormed
  rw [pieces, if_neg undoubled, toList_dotted]
  refine List.splitOn_intercalate '.' (fun piece member => (wellFormed piece member).undotted) ?_
  exact mt List.map_eq_nil_iff.mp path.nonempty

/-! ### Listing segments and going down -/

theorem ofSegments_segments : ofSegments path.segments = .ok path := by
  have checked := (checkSegments_eq_ok_iff path.segments).mpr path.wellFormed
  unfold ofSegments
  split_ifs with empty
  · exact absurd empty path.nonempty
  · split
    · rename_i fault failed
      rw [checked] at failed
      cases failed
    · rfl

section

variable {path} {key : String} {fault : KeyPathError}

theorem segments_of_ofSegments {segments : List String} (made : ofSegments segments = .ok path) :
    path.segments = segments := by
  unfold ofSegments at made
  split_ifs at made
  split at made
  · cases made
  · cases made
    rfl

theorem checkSegments_singleton (segment : String) :
    checkSegments [segment] = checkSegment segment := by
  rw [checkSegments]
  cases checkSegment segment <;> rfl

theorem checkSegment_of_ofSegments_eq_error (failed : ofSegments [key] = .error fault) :
    checkSegment key = .error fault := by
  unfold ofSegments at failed
  rw [dif_neg (List.cons_ne_nil key [])] at failed
  split at failed
  · rename_i refused
    cases failed
    rw [← checkSegments_singleton]
    exact refused
  · cases failed

theorem checkSegment_of_child_eq_error (failed : path.child key = .error fault) :
    checkSegment key = .error fault := by
  unfold child at failed
  split at failed
  · rename_i refused
    cases failed
    exact refused
  · cases failed

theorem segments_of_child {inner : KeyPath} (made : path.child key = .ok inner) :
    inner.segments = path.segments ++ [key] := by
  unfold child at made
  split at made
  · cases made
  · cases made
    rfl

end

/-! ### Reading joined segments -/

section

variable {path} {text : String} {separator : List Char}

/-- Segments stay as they are at the ends of a text that joins them. -/
theorem trimChars_of_joined
    (joined : text.toList = separator.intercalate (path.segments.map String.toList)) :
    trimChars text.toList = text.toList := by
  rw [joined]
  exact trimChars_eq_self (tight_intercalate _ path.wellFormedSegment_of_mem)

/-- A text that joins the segments of a path is read as the path if it is cut into them again. -/
theorem parse_of_joined
    (joined : text.toList = separator.intercalate (path.segments.map String.toList))
    (cut : pieces text.toList = path.segments.map String.toList) : parse text = .ok path := by
  have filled : text.toList ≠ [] := by
    obtain ⟨first, rest, same⟩ := List.exists_cons_of_ne_nil path.nonempty
    rw [joined, same, List.map_cons]
    have checked := path.wellFormed first (same ▸ List.mem_cons_self)
    exact intercalate_ne_nil (wellFormed_of_checkSegment checked).filled
  have named : (path.segments.map String.toList).map String.ofList = path.segments := by
    rw [List.map_map]
    exact List.map_id'' (fun segment => String.ofList_toList) path.segments
  simp only [parse, trimChars_of_joined joined]
  rw [if_neg (mt List.isEmpty_iff.mp filled), cut, named, ofSegments_segments]

end

/-- Reading the spelling with dots gives the path back. -/
theorem parse_dotted : parse path.dotted = .ok path :=
  parse_of_joined path.toList_dotted path.pieces_dotted

end KeyPath

end Phrasebook
