/-
This file says what trimming leaves: characters of which neither the first nor the
last is blank. Such characters are trimmed already, so trimming does nothing more
to them.
-/

import Mathlib.Data.List.DropRight
import Phrasebook.Text.Blank

namespace Phrasebook.Text

/-- Neither the first nor the last character is blank. -/
structure Tight (characters : List Char) : Prop where
  first : ∀ character ∈ characters.head?, isBlank character = false
  last : ∀ character ∈ characters.getLast?, isBlank character = false

theorem dropWhile_isBlank_of_first {characters : List Char}
    (first : ∀ character ∈ characters.head?, isBlank character = false) :
    characters.dropWhile isBlank = characters := by
  cases characters with
  | nil => rfl
  | cons character rest =>
    refine List.dropWhile_cons_of_neg ?_
    rw [first character rfl]
    exact Bool.false_ne_true

theorem first_of_dropWhile_isBlank (characters : List Char) :
    ∀ character ∈ (characters.dropWhile isBlank).head?, isBlank character = false := by
  intro character member
  have kept := List.head?_dropWhile_not isBlank characters
  rw [member] at kept
  exact kept

theorem trimChars_eq_self {characters : List Char} (tight : Tight characters) :
    trimChars characters = characters := by
  rw [trimChars, dropWhile_isBlank_of_first tight.first, dropWhile_isBlank_of_first,
    List.reverse_reverse]
  rw [List.head?_reverse]
  exact tight.last

/-- What trimming leaves stands in the characters as a whole. -/
theorem isInfix_trimChars (characters : List Char) : trimChars characters <:+: characters :=
  (List.rdropWhile_prefix isBlank _).isInfix.trans (List.dropWhile_suffix isBlank).isInfix

/-- What trimming leaves is tight. -/
theorem tight_trimChars (characters : List Char) : Tight (trimChars characters) where
  first := by
    intro character member
    have start : trimChars characters <+: characters.dropWhile isBlank :=
      List.rdropWhile_prefix isBlank _
    obtain ⟨rest, whole⟩ := start
    refine first_of_dropWhile_isBlank characters character ?_
    rw [← whole, List.head?_append, member]
    rfl
  last := by
    intro character member
    rw [trimChars, List.getLast?_reverse] at member
    exact first_of_dropWhile_isBlank _ character member

theorem trimChars_eq_self_iff {characters : List Char} :
    trimChars characters = characters ↔ Tight characters := by
  constructor
  · intro same
    rw [← same]
    exact tight_trimChars characters
  · exact trimChars_eq_self

/-- Joining tight characters with anything between them gives tight characters. -/
theorem Tight.append {first second : List Char} (tightFirst : Tight first)
    (tightSecond : Tight second) (filledFirst : first ≠ []) (filledSecond : second ≠ [])
    (between : List Char) : Tight (first ++ between ++ second) where
  first := by
    intro character member
    rw [List.append_assoc, List.head?_append_of_ne_nil _ filledFirst] at member
    exact tightFirst.first character member
  last := by
    intro character member
    rw [List.getLast?_append_of_ne_nil _ filledSecond] at member
    exact tightSecond.last character member

end Phrasebook.Text
