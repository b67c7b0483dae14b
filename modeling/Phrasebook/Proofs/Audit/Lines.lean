/-
This file shows that records cannot be forged by what stands in them. No line feed is
left in a string that is written as JSON, whatever its characters are, nor anywhere else
in the line of an event. So a text of lines, each ended by a line feed, is cut at its line
feeds into the very lines it was made of: a key or a message that a caller chose never
ends a line or starts one.
-/

import Mathlib.Tactic.SplitIfs
import Phrasebook.Audit

namespace Phrasebook

/-! ### Written JSON -/

namespace Json

theorem hexDigit_ne_newline : ∀ value < 16, hexDigit value ≠ '\n' := by
  decide

/-- A line feed is written with its escape, and no other character is written with one. -/
theorem newline_not_mem_escape (character : Char) : '\n' ∉ escape character := by
  unfold escape
  split_ifs with _ _ _ _ lineFeed _ _ control
  -- What is left is a control character without a short escape, or a character as it is.
  all_goals try decide
  · have high := hexDigit_ne_newline (character.toNat / 16) (by omega)
    have low := hexDigit_ne_newline (character.toNat % 16) (by omega)
    simp [high.symm, low.symm]
  · rw [List.mem_singleton]
    exact Ne.symm lineFeed

theorem newline_not_mem_quote (text : String) : '\n' ∉ (quote text).toList := by
  rw [quote, String.toList_ofList, List.mem_cons, List.mem_append, List.mem_flatMap,
    List.mem_singleton]
  rintro (quotation | ⟨character, -, inside⟩ | quotation)
  · exact absurd quotation (by decide)
  · exact newline_not_mem_escape character inside
  · exact absurd quotation (by decide)

theorem newline_not_mem_writeNatural (value : Nat) : '\n' ∉ (writeNatural value).toList := by
  rw [writeNatural, String.toList_ofList]
  intro inside
  exact absurd (Nat.isDigit_of_mem_toDigits (by decide) (by decide) inside) (by decide)

theorem newline_not_mem_append {first second : String} :
    '\n' ∉ (first ++ second).toList ↔ '\n' ∉ first.toList ∧ '\n' ∉ second.toList := by
  rw [String.toList_append, List.mem_append, not_or]

theorem newline_not_mem_intercalate {separator : String} {parts : List String}
    (between : '\n' ∉ separator.toList) (each : ∀ part ∈ parts, '\n' ∉ part.toList) :
    '\n' ∉ (separator.intercalate parts).toList := by
  rw [String.toList_intercalate]
  induction parts with
  | nil => exact List.not_mem_nil
  | cons first rest inductionHypothesis =>
    rw [List.forall_mem_cons] at each
    cases rest with
    | nil =>
      rw [List.map_singleton, List.intercalate_singleton]
      exact each.1
    | cons second rest =>
      rw [List.map_cons, List.map_cons, List.intercalate_cons_cons, List.mem_append,
        List.mem_append, not_or, not_or]
      exact ⟨⟨each.1, between⟩, inductionHypothesis each.2⟩

theorem newline_not_mem_writeList {elements : List String}
    (each : ∀ element ∈ elements, '\n' ∉ element.toList) :
    '\n' ∉ (writeList elements).toList := by
  rw [writeList, newline_not_mem_append, newline_not_mem_append]
  exact ⟨⟨by decide, newline_not_mem_intercalate (by decide) each⟩, by decide⟩

theorem newline_not_mem_writeMember {member : String × String} (value : '\n' ∉ member.2.toList) :
    '\n' ∉ (writeMember member).toList := by
  rw [writeMember, newline_not_mem_append, newline_not_mem_append]
  exact ⟨⟨newline_not_mem_quote member.1, by decide⟩, value⟩

/-- An object has no line feed if none of its written values has one. -/
theorem newline_not_mem_writeObject {members : List (String × String)}
    (each : ∀ member ∈ members, '\n' ∉ member.2.toList) :
    '\n' ∉ (writeObject members).toList := by
  rw [writeObject, newline_not_mem_append, newline_not_mem_append]
  refine ⟨⟨by decide, newline_not_mem_intercalate (by decide) ?_⟩, by decide⟩
  rw [List.forall_mem_map]
  exact fun member held => newline_not_mem_writeMember (each member held)

end Json

/-! ### Lines -/

namespace Audit

/-- No text of a caller and no other part of an event breaks its line. -/
theorem Event.newline_not_mem_line (event : Event) (timestamp : Nat) :
    '\n' ∉ (event.line timestamp).toList := by
  rw [line]
  refine Json.newline_not_mem_writeObject ?_
  cases event with
  | catalogLoad primaryKeys sharedKeys maxRedirectDepth problems =>
    have sizes : '\n' ∉ (Json.writeList (sharedKeys.map Json.writeNatural)).toList := by
      refine Json.newline_not_mem_writeList ?_
      rw [List.forall_mem_map]
      exact fun size _ => Json.newline_not_mem_writeNatural size
    simp [members, sizes, Json.newline_not_mem_quote, Json.newline_not_mem_writeNatural]
  | renderFallback key cause =>
    simp [members, Json.newline_not_mem_quote, Json.newline_not_mem_writeNatural]

/-- The text of lines, each with a line feed behind it. -/
def textOfLines (lines : List String) : String :=
  String.join (lines.map (· ++ "\n"))

theorem textOfLines_cons (line : String) (rest : List String) :
    textOfLines (line :: rest) = line ++ "\n" ++ textOfLines rest := by
  rw [textOfLines, List.map_cons, String.join_cons, textOfLines]

theorem toList_textOfLines (lines : List String) :
    (textOfLines lines).toList = ['\n'].intercalate (lines.map String.toList ++ [[]]) := by
  induction lines with
  | nil => rfl
  | cons line rest inductionHypothesis =>
    rw [textOfLines_cons, String.toList_append, inductionHypothesis, List.map_cons,
      List.cons_append]
    cases rest <;> simp [List.intercalate_cons_cons]

/-- A text of lines without line feeds of their own is cut into these lines again. -/
theorem splitOn_textOfLines {lines : List String} (each : ∀ line ∈ lines, '\n' ∉ line.toList) :
    (textOfLines lines).toList.splitOn '\n' = lines.map String.toList ++ [[]] := by
  rw [toList_textOfLines]
  refine List.splitOn_intercalate '\n' ?_ (by simp)
  simpa [or_imp, forall_and] using each

end Audit

end Phrasebook
