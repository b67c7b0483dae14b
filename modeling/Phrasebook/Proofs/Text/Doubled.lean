/-
This file says where joined pieces are cut. Pieces that hold no doubled mark are
joined by doubled marks, and a cut takes the leftmost doubled mark it meets. If a
piece ends with the mark itself, the leftmost one starts inside of the piece, so the
pieces come back exactly when none of them but the last ends with the mark. How a
piece starts makes no difference.
-/

import Phrasebook.Proofs.Text.Search

namespace Phrasebook.Text

variable {mark : Char}

/-! ### The loop of a cut -/

/-- Pieces that are finished stay as they are. -/
theorem splitDoubledFrom_append_pieces (mark : Char) (piece : List Char)
    (pieces finished : List (List Char)) (characters : List Char) :
    splitDoubledFrom mark piece (pieces ++ finished) characters =
      finished.reverse ++ splitDoubledFrom mark piece pieces characters := by
  fun_induction splitDoubledFrom mark piece pieces characters with
  | case1 piece pieces => simp [splitDoubledFrom]
  | case2 piece pieces character => simp [splitDoubledFrom]
  | case3 piece pieces first second rest both inductionHypothesis =>
    rw [splitDoubledFrom, if_pos both]
    exact inductionHypothesis
  | case4 piece pieces first second rest single inductionHypothesis =>
    rw [splitDoubledFrom, if_neg single]
    exact inductionHypothesis

theorem splitDoubledFrom_of_undoubled {characters : List Char}
    (undoubled : ¬[mark, mark] <:+: characters) (piece : List Char) :
    splitDoubledFrom mark piece [] characters = [piece.reverse ++ characters] := by
  induction characters generalizing piece with
  | nil => simp [splitDoubledFrom]
  | cons first rest inductionHypothesis =>
    cases rest with
    | nil => simp [splitDoubledFrom]
    | cons second more =>
      have single : ¬(first = mark ∧ second = mark) := by
        rintro ⟨rfl, rfl⟩
        exact undoubled ⟨[], more, rfl⟩
      rw [splitDoubledFrom, if_neg single,
        inductionHypothesis fun inside => undoubled (List.infix_cons inside)]
      simp

theorem splitDoubledFrom_append {first : List Char} (undoubled : ¬[mark, mark] <:+: first)
    (border : first.getLast? ≠ some mark) (piece after : List Char) :
    splitDoubledFrom mark piece [] (first ++ [mark, mark] ++ after) =
      (piece.reverse ++ first) :: splitDoubled mark after := by
  induction first generalizing piece with
  | nil =>
    have cut := splitDoubledFrom_append_pieces mark [] [] [piece.reverse] after
    simpa [splitDoubledFrom, splitDoubled] using cut
  | cons character rest inductionHypothesis =>
    -- The two characters ahead are not both the mark, also where `rest` is empty.
    obtain ⟨second, more, whole, single, later⟩ : ∃ second more,
        rest ++ [mark, mark] ++ after = second :: more ∧
          ¬(character = mark ∧ second = mark) ∧ rest.getLast? ≠ some mark := by
      cases rest with
      | nil => exact ⟨mark, mark :: after, rfl, fun both => border (congrArg some both.1), by simp⟩
      | cons second more =>
        refine ⟨second, more ++ [mark, mark] ++ after, rfl, ?_, ?_⟩
        · rintro ⟨rfl, rfl⟩
          exact undoubled ⟨[], more, rfl⟩
        · rwa [List.getLast?_cons_cons] at border
    rw [List.cons_append, List.cons_append, whole, splitDoubledFrom, if_neg single, ← whole,
      inductionHypothesis (fun inside => undoubled (List.infix_cons inside)) later]
    simp

/-! ### The first cut -/

/-- Characters without a doubled mark are not cut. -/
theorem splitDoubled_of_undoubled {characters : List Char}
    (undoubled : ¬[mark, mark] <:+: characters) : splitDoubled mark characters = [characters] :=
  splitDoubledFrom_of_undoubled undoubled []

/-- The first cut is at the first doubled mark, if the characters before it do not end with the
mark themselves. -/
theorem splitDoubled_append {first : List Char} (undoubled : ¬[mark, mark] <:+: first)
    (border : first.getLast? ≠ some mark) (after : List Char) :
    splitDoubled mark (first ++ [mark, mark] ++ after) = first :: splitDoubled mark after :=
  splitDoubledFrom_append undoubled border [] after

/-- A piece that ends with the mark is cut short, and what follows it starts with the mark. -/
theorem splitDoubled_append_mark {first : List Char}
    (undoubled : ¬[mark, mark] <:+: first ++ [mark]) (after : List Char) :
    splitDoubled mark (first ++ [mark] ++ [mark, mark] ++ after) =
      first :: splitDoubled mark (mark :: after) := by
  have shorter : ¬[mark, mark] <:+: first := fun inside =>
    undoubled (inside.trans (List.prefix_append first [mark]).isInfix)
  have border : first.getLast? ≠ some mark := by
    intro ends
    obtain ⟨earlier, rfl⟩ := List.getLast?_eq_some_iff.mp ends
    exact undoubled ⟨earlier, [], by simp⟩
  have cut := splitDoubled_append shorter border (mark :: after)
  simpa using cut

/-! ### Joined pieces -/

/-- Joined pieces without a doubled mark are cut where they were joined exactly when none of
them but the last ends with the mark. -/
theorem splitDoubled_intercalate_iff {pieces : List (List Char)} (filled : pieces ≠ [])
    (undoubled : ∀ piece ∈ pieces, ¬[mark, mark] <:+: piece) :
    splitDoubled mark ([mark, mark].intercalate pieces) = pieces ↔
      ∀ piece ∈ pieces.dropLast, piece.getLast? ≠ some mark := by
  induction pieces with
  | nil => exact absurd rfl filled
  | cons first rest inductionHypothesis =>
    obtain ⟨here, later⟩ := List.forall_mem_cons.mp undoubled
    cases rest with
    | nil =>
      rw [List.intercalate_singleton, splitDoubled_of_undoubled here]
      simp
    | cons second more =>
      rw [List.intercalate_cons_cons, List.dropLast_cons_cons, List.forall_mem_cons,
        ← inductionHypothesis (List.cons_ne_nil _ _) later]
      by_cases ends : first.getLast? = some mark
      · obtain ⟨shorter, rfl⟩ := List.getLast?_eq_some_iff.mp ends
        rw [splitDoubled_append_mark here]
        simp
      · rw [splitDoubled_append here ends, List.cons.injEq]
        simp [ends]

end Phrasebook.Text
