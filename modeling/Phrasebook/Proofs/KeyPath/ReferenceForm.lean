/-
This file says when a path can be read back from its spelling with doubled colons.
A segment may start or end with a single colon. Where a segment that ends with one
meets the separator there are three colons in a row, of which the first two are taken
for the separator, so the colon goes over to the next segment. The spelling is read
back exactly when no segment but the last ends with a colon, and paths of this kind
share their spelling with no other path of this kind.
-/

import Phrasebook.Proofs.KeyPath.Canonical
import Phrasebook.Proofs.Text.Doubled

namespace Phrasebook.KeyPath

open Text

variable {path : KeyPath}

/-- No segment that another one follows ends with a colon. -/
def ClearJoints (path : KeyPath) : Prop :=
  ∀ segment ∈ path.segments.dropLast, segment.toList.getLast? ≠ some ':'

/-! ### Cutting the spelling -/

/-- With several segments the spelling holds a doubled colon, so it is cut there. -/
theorem pieces_referenceForm_of_two {first second : String} {more : List String}
    (listed : path.segments = first :: second :: more) :
    pieces path.referenceForm.toList = splitDoubled ':' path.referenceForm.toList := by
  refine if_pos (occurs_iff.mpr ?_)
  rw [toList_referenceForm, listed, List.map_cons, List.map_cons, List.intercalate_cons_cons]
  exact List.infix_append _ _ _

/-- The spelling is cut into the segments exactly when no colon stands at a joint. -/
theorem pieces_referenceForm_eq_iff :
    pieces path.referenceForm.toList = path.segments.map String.toList ↔ path.ClearJoints := by
  unfold ClearJoints
  rcases listed : path.segments with _ | ⟨first, _ | ⟨second, more⟩⟩
  · exact absurd listed path.nonempty
  · have alike : path.referenceForm = path.dotted := by
      rw [referenceForm, dotted, listed]
      rfl
    have cut := path.pieces_dotted
    rw [listed] at cut
    rw [alike, cut]
    simp
  · have wellFormed := path.wellFormedSegment_of_mem
    rw [pieces_referenceForm_of_two listed, toList_referenceForm]
    rw [listed] at wellFormed ⊢
    refine (splitDoubled_intercalate_iff (List.cons_ne_nil _ _)
      fun piece member => (wellFormed piece member).undoubled).trans ?_
    rw [← List.map_cons, ← List.map_dropLast, List.forall_mem_map]

/-! ### Reading the spelling -/

theorem parse_referenceForm_eq_ok_iff :
    parse path.referenceForm = .ok path ↔ path.ClearJoints := by
  rw [← pieces_referenceForm_eq_iff]
  constructor
  · intro read
    rw [map_toList_segments_of_parse read, trimChars_of_joined (toList_referenceForm path)]
  · exact parse_of_joined (toList_referenceForm path)

/-- Reading the spelling with doubled colons gives the path back exactly when no segment but the
last ends with a colon. Two such paths with the same spelling are the same path. -/
theorem parse_referenceForm (path : KeyPath) :
    (parse path.referenceForm = .ok path ↔ path.ClearJoints) ∧
      ∀ other : KeyPath, path.ClearJoints ∧ other.ClearJoints ∧
        other.referenceForm = path.referenceForm → other = path := by
  refine ⟨parse_referenceForm_eq_ok_iff, ?_⟩
  rintro other ⟨clear, clearOther, same⟩
  have read := parse_referenceForm_eq_ok_iff.mpr clearOther
  rw [same, parse_referenceForm_eq_ok_iff.mpr clear] at read
  cases read
  rfl

/-- The colon of a joint in the segment before it. -/
def colonBefore : KeyPath := ⟨["a:", "b"], by decide, by decide⟩

/-- The colon of a joint in the segment behind it. -/
def colonBehind : KeyPath := ⟨["a", ":b"], by decide, by decide⟩

/-- A path that is listed segment by segment is read back as another one, which has the same
spelling. -/
theorem parse_referenceForm_colonBefore :
    ofSegments ["a:", "b"] = .ok colonBefore ∧
      parse colonBefore.referenceForm = .ok colonBehind ∧ colonBehind ≠ colonBefore ∧
      colonBehind.referenceForm = colonBefore.referenceForm := by
  refine ⟨colonBefore.ofSegments_segments, ?_, by decide, by decide +kernel⟩
  decide +kernel

end Phrasebook.KeyPath
