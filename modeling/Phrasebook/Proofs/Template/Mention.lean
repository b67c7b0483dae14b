/-
This file says which paths a string can refer to by their spelling with dots. A
reference ends at the first closing behind its opening, and segments of a path are
free to hold a closing, so a path with such a segment is cut short where it stands.
Every other path is read from its spelling between the brackets, under either policy.
-/

import Phrasebook.Proofs.KeyPath.RoundTrip
import Phrasebook.Proofs.Template.SourceText

namespace Phrasebook

open Template Text

namespace KeyPath

/-- A reference to the path, spelled with dots. -/
def mention (path : KeyPath) : String :=
  referenceOpening ++ path.dotted ++ referenceClosing

/-- No segment holds what closes a reference. -/
def Mentionable (path : KeyPath) : Prop :=
  ∀ segment ∈ path.segments, ¬referenceClosing.toList <:+: segment.toList

variable {path : KeyPath}

theorem toList_mention (path : KeyPath) : path.mention.toList = bracketed path.dotted.toList := by
  rw [mention, String.toList_append, String.toList_append, List.append_assoc, bracketed]

/-- Dots do not close a reference, so the spelling holds a closing only where a segment does. -/
theorem unclosed_dotted_iff :
    ¬referenceClosing.toList <:+: path.dotted.toList ↔ path.Mentionable := by
  rw [toList_dotted]
  constructor
  · intro unclosed segment member closed
    exact unclosed (closed.trans (infix_intercalate_of_mem (List.mem_map_of_mem member)))
  · intro mentionable closed
    obtain ⟨piece, member, inside⟩ := exists_mem_of_pair_infix_intercalate
      (List.cons_ne_nil _ _) (by decide) (by decide) closed
    obtain ⟨segment, listed, rfl⟩ := List.mem_map.mp member
    exact mentionable segment listed inside

end KeyPath

/-- A mention of a path redirects to it exactly when no segment closes the reference. -/
theorem LeafEntry.parse_mention_iff {path : KeyPath} {policy : MalformedReferencePolicy} :
    LeafEntry.parse path.mention policy = .ok (.redirect path) ↔ path.Mentionable := by
  have alone : LeafEntry.redirect path =
      .ofTemplate ⟨[.reference path], True.intro⟩ := rfl
  rw [alone, parse_eq_ok_ofTemplate_iff, path.toList_mention, ← KeyPath.unclosed_dotted_iff]
  constructor
  · intro spelled
    cases spelled with
    | reference names whole onward =>
      cases onward
      rw [List.append_nil, bracketed, bracketed, List.append_cancel_left_eq,
        List.append_cancel_right_eq] at whole
      rw [whole]
      exact names.unclosed
  · intro unclosed
    refine .reference ⟨unclosed, ?_⟩ (List.append_nil _).symm .nothing
    rw [String.ofList_toList]
    exact path.parse_dotted

end Phrasebook
