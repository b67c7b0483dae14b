/-
This file says when a text occurs in another: when it stands somewhere in it as a
whole. A pair of characters that occurs around a different character occurs before
it or behind it, so it cannot arise where pieces are joined by other characters. A
pair of two different characters cannot arise where it meets itself either, so the
first occurrence of such a pair is the one with none before it. The pieces of a cut
joined again are the text that was cut.
-/

import Mathlib.Data.List.Infix
import Phrasebook.Text.Search

namespace Phrasebook.Text

theorem isSome_splitFirstFrom_iff {pattern passed characters : List Char} :
    (splitFirstFrom pattern passed characters).isSome ↔ pattern <:+: characters := by
  induction characters generalizing passed with
  | nil =>
    rw [splitFirstFrom, Option.isSome_map, List.infix_nil]
    cases pattern <;> simp [afterStart?]
  | cons character rest inductionHypothesis =>
    rw [splitFirstFrom, List.infix_cons_iff]
    cases starts : afterStart? pattern (character :: rest) with
    | some after =>
      have whole := (afterStart?_eq_some_iff _ _ _).mp starts
      exact ⟨fun _ => Or.inl ⟨after, whole.symm⟩, fun _ => rfl⟩
    | none =>
      have later : ¬pattern <+: character :: rest := by
        rintro ⟨after, whole⟩
        rw [(afterStart?_eq_some_iff _ _ _).mpr whole.symm] at starts
        cases starts
      rw [or_iff_right later]
      exact inductionHypothesis

/-- A text occurs in another when it stands in it as a whole. -/
theorem occurs_iff {pattern characters : List Char} :
    occurs pattern characters ↔ pattern <:+: characters :=
  isSome_splitFirstFrom_iff

/-- A pair does not occur across a character that is neither of the two. -/
theorem pair_infix_append_cons {first second between : Char} (notFirst : between ≠ first)
    (notSecond : between ≠ second) {before after : List Char}
    (occurs : [first, second] <:+: before ++ between :: after) :
    [first, second] <:+: before ∨ [first, second] <:+: after := by
  induction before with
  | nil =>
    rcases List.infix_cons_iff.mp occurs with start | later
    · exact absurd (List.cons_prefix_cons.mp start).1.symm notFirst
    · exact Or.inr later
  | cons character rest inductionHypothesis =>
    rcases List.infix_cons_iff.mp occurs with start | later
    · obtain ⟨rfl, next⟩ := List.cons_prefix_cons.mp start
      cases rest with
      | nil => exact absurd (List.cons_prefix_cons.mp next).1.symm notSecond
      | cons other more =>
        obtain ⟨rfl, -⟩ := List.cons_prefix_cons.mp next
        exact Or.inl ⟨[], more, rfl⟩
    · refine (inductionHypothesis later).imp_left fun inside => ?_
      exact List.infix_cons inside

/-- A pair that occurs behind characters other than its first one occurs in what follows
them. -/
theorem pair_infix_of_infix_append {first second : Char} {separator after : List Char}
    (notFirst : first ∉ separator) (occurs : [first, second] <:+: separator ++ after) :
    [first, second] <:+: after := by
  induction separator with
  | nil => exact occurs
  | cons between more inductionHypothesis =>
    obtain ⟨different, later⟩ := List.ne_and_not_mem_of_not_mem_cons notFirst
    rcases List.infix_cons_iff.mp occurs with start | inside
    · exact absurd (List.cons_prefix_cons.mp start).1 different
    · exact inductionHypothesis later inside

/-- A pair does not occur across characters none of which is one of the two. -/
theorem pair_infix_append_append {first second : Char} {separator : List Char}
    (filled : separator ≠ []) (notFirst : first ∉ separator) (notSecond : second ∉ separator)
    {before after : List Char} (occurs : [first, second] <:+: before ++ separator ++ after) :
    [first, second] <:+: before ∨ [first, second] <:+: after := by
  obtain ⟨between, more, rfl⟩ := List.exists_cons_of_ne_nil filled
  obtain ⟨otherFirst, notFirst⟩ := List.ne_and_not_mem_of_not_mem_cons notFirst
  have otherSecond := (List.ne_and_not_mem_of_not_mem_cons notSecond).1
  rw [List.append_assoc, List.cons_append] at occurs
  refine (pair_infix_append_cons otherFirst.symm otherSecond.symm occurs).imp_right ?_
  exact pair_infix_of_infix_append notFirst

/-- A pair that occurs in joined pieces occurs in one of them. -/
theorem exists_mem_of_pair_infix_intercalate {first second : Char} {separator : List Char}
    (filled : separator ≠ []) (notFirst : first ∉ separator) (notSecond : second ∉ separator)
    {pieces : List (List Char)} (occurs : [first, second] <:+: separator.intercalate pieces) :
    ∃ piece ∈ pieces, [first, second] <:+: piece := by
  induction pieces with
  | nil => cases List.infix_nil.mp occurs
  | cons piece rest inductionHypothesis =>
    cases rest with
    | nil =>
      rw [List.intercalate_singleton] at occurs
      exact ⟨piece, List.mem_cons_self, occurs⟩
    | cons next more =>
      rw [List.intercalate_cons_cons] at occurs
      rcases pair_infix_append_append filled notFirst notSecond occurs with here | later
      · exact ⟨piece, List.mem_cons_self, here⟩
      · obtain ⟨other, member, inside⟩ := inductionHypothesis later
        exact ⟨other, List.mem_cons_of_mem _ member, inside⟩

theorem infix_intercalate_of_mem {separator piece : List Char} {pieces : List (List Char)}
    (member : piece ∈ pieces) : piece <:+: separator.intercalate pieces := by
  induction pieces with
  | nil => cases member
  | cons first rest inductionHypothesis =>
    cases rest with
    | nil =>
      rw [List.mem_singleton.mp member, List.intercalate_singleton]
    | cons next more =>
      rw [List.intercalate_cons_cons]
      rcases List.mem_cons.mp member with rfl | later
      · rw [List.append_assoc]
        exact (List.prefix_append _ _).isInfix
      · exact (inductionHypothesis later).trans (List.suffix_append _ _).isInfix

/-! ### Starts across a border -/

/-- What starts in characters and is not continued by what follows them lies in them. -/
theorem prefix_of_prefix_append {pattern characters after : List Char}
    (filled : characters ≠ []) (border : ∀ character ∈ after.head?, character ∉ pattern.tail)
    (starts : pattern <+: characters ++ after) : pattern <+: characters := by
  rcases List.prefix_or_prefix_of_prefix starts (List.prefix_append _ _) with inside | beyond
  · exact inside
  · obtain ⟨left, rfl⟩ := beyond
    have continued := (List.prefix_append_right_inj characters).mp starts
    cases left with
    | nil => rw [List.append_nil]
    | cons character more =>
      obtain ⟨tail, rfl⟩ := continued
      refine absurd ?_ (border character rfl)
      rw [List.tail_append_of_ne_nil filled]
      exact List.mem_append_right _ List.mem_cons_self

/-! ### The first occurrence of a pair -/

/-- What occurs has a first occurrence, before which it does not occur. -/
theorem exists_first_of_infix {pattern characters : List Char} (filled : pattern ≠ [])
    (occurs : pattern <:+: characters) :
    ∃ before after, characters = before ++ pattern ++ after ∧ ¬pattern <:+: before := by
  induction characters with
  | nil => exact absurd (List.infix_nil.mp occurs) filled
  | cons character rest inductionHypothesis =>
    by_cases starts : pattern <+: character :: rest
    · obtain ⟨after, whole⟩ := starts
      exact ⟨[], after, whole.symm, fun inside => filled (List.infix_nil.mp inside)⟩
    · have later := (List.infix_cons_iff.mp occurs).resolve_left starts
      obtain ⟨before, after, whole, first⟩ := inductionHypothesis later
      refine ⟨character :: before, after, by rw [whole]; rfl, fun inside => ?_⟩
      rcases List.infix_cons_iff.mp inside with here | further
      · refine starts (here.trans ?_)
        rw [whole, List.append_assoc, List.cons_prefix_cons]
        exact ⟨rfl, List.prefix_append _ _⟩
      · exact first further

theorem splitFirstFrom_pair {first second : Char} (different : first ≠ second)
    {before : List Char} (unmet : ¬[first, second] <:+: before) (passed after : List Char) :
    splitFirstFrom [first, second] passed (before ++ [first, second] ++ after) =
      some (passed.reverse ++ before, after) := by
  induction before generalizing passed with
  | nil => simp [splitFirstFrom, afterStart?]
  | cons character rest inductionHypothesis =>
    have absent : afterStart? [first, second]
        (character :: (rest ++ [first, second] ++ after)) = none := by
      rw [Option.eq_none_iff_forall_ne_some]
      intro left found
      obtain ⟨rfl, whole⟩ := List.cons.inj ((afterStart?_eq_some_iff _ _ _).mp found)
      cases rest with
      | nil => exact different (List.cons.inj whole).1
      | cons next more =>
        obtain ⟨rfl, -⟩ := List.cons.inj whole
        exact unmet ⟨[], more, rfl⟩
    rw [List.cons_append, List.cons_append, splitFirstFrom, absent]
    simp only
    rw [inductionHypothesis fun inside => unmet (List.infix_cons inside)]
    simp

/-- A split at a pair of different characters is the one with no such pair before it. -/
theorem splitFirst_pair_eq_some_iff {first second : Char} (different : first ≠ second)
    {characters before after : List Char} :
    splitFirst [first, second] characters = some (before, after) ↔
      characters = before ++ [first, second] ++ after ∧ ¬[first, second] <:+: before := by
  constructor
  · intro found
    have whole := append_of_splitFirst found
    obtain ⟨earliest, rest, same, unmet⟩ :=
      exists_first_of_infix (List.cons_ne_nil _ _) ⟨before, after, whole.symm⟩
    rw [same, splitFirst, splitFirstFrom_pair different unmet] at found
    cases found
    exact ⟨same, unmet⟩
  · rintro ⟨rfl, unmet⟩
    exact splitFirstFrom_pair different unmet [] after

/-! ### Cuts undone -/

theorem intercalate_append_cons_cons (separator first second : List Char)
    (before : List (List Char)) :
    separator.intercalate (before ++ [first, second]) =
      separator.intercalate (before ++ [first ++ separator ++ second]) := by
  induction before with
  | nil => simp [List.intercalate_cons_cons, List.intercalate_singleton]
  | cons piece rest inductionHypothesis =>
    cases rest with
    | nil => simp [List.intercalate_cons_cons, List.intercalate_singleton]
    | cons next more =>
      simp only [List.cons_append, List.intercalate_cons_cons] at inductionHypothesis ⊢
      rw [inductionHypothesis]

theorem intercalate_splitDoubledFrom (mark : Char) (piece : List Char)
    (pieces : List (List Char)) (characters : List Char) :
    [mark, mark].intercalate (splitDoubledFrom mark piece pieces characters) =
      [mark, mark].intercalate (pieces.reverse ++ [piece.reverse ++ characters]) := by
  fun_induction splitDoubledFrom mark piece pieces characters with
  | case1 piece pieces => simp
  | case2 piece pieces character => simp
  | case3 piece pieces first second rest both inductionHypothesis =>
    obtain ⟨rfl, rfl⟩ := both
    rw [inductionHypothesis]
    simp [intercalate_append_cons_cons]
  | case4 piece pieces first second rest single inductionHypothesis =>
    rw [inductionHypothesis]
    simp

/-- Joining the pieces of a cut gives back the text. -/
theorem intercalate_splitDoubled (mark : Char) (characters : List Char) :
    [mark, mark].intercalate (splitDoubled mark characters) = characters := by
  rw [splitDoubled, intercalate_splitDoubledFrom]
  exact List.intercalate_singleton

end Phrasebook.Text
