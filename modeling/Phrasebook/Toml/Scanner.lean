/-
This file reads what separates the parts of a TOML document: blanks, comments and
the ends of lines. A line ends with a line feed, which a carriage return may
precede; control characters other than tabs may stand nowhere.
-/

import Phrasebook.Text.Remainder

namespace Phrasebook.Toml

/-! ### Within a line -/

/-- The two blank characters. -/
def isBlankSpace (character : Char) : Bool :=
  character == ' ' || character == '\t'

/-- The input without the blanks at its start. -/
def skipBlanks (characters : List Char) : List Char :=
  characters.dropWhile isBlankSpace

theorem length_skipBlanks_le (characters : List Char) :
    (skipBlanks characters).length ≤ characters.length :=
  (List.dropWhile_suffix isBlankSpace).length_le

theorem length_lt_of_skipBlanks {characters rest : List Char} {first : Char}
    (same : skipBlanks characters = first :: rest) : rest.length < characters.length :=
  Text.length_lt_of_dropWhile same

/-- Whether a character may stand in comments and strings. -/
def isPlainCharacter (character : Char) : Bool :=
  character == '\t' || (decide (0x20 ≤ character.toNat) && character != '\x7f')

/-- The input without the comment at its start. -/
def skipComment : List Char → List Char
  | '#' :: rest => rest.dropWhile isPlainCharacter
  | characters => characters

theorem length_skipComment_le (characters : List Char) :
    (skipComment characters).length ≤ characters.length := by
  unfold skipComment
  split
  · exact Nat.le_succ_of_le (List.dropWhile_suffix isPlainCharacter).length_le
  · exact Nat.le_refl _

/-! ### Ends of lines -/

/-- What follows the end of a line. -/
def afterLineEnd? : List Char → Option (List Char)
  | '\n' :: rest => some rest
  | '\r' :: '\n' :: rest => some rest
  | _ => none

theorem length_of_afterLineEnd {characters rest : List Char}
    (ends : afterLineEnd? characters = some rest) : rest.length < characters.length := by
  unfold afterLineEnd? at ends
  split at ends
  · cases ends
    exact Nat.lt_succ_self _
  · cases ends
    simp only [List.length_cons]
    omega
  · cases ends

set_option linter.unusedVariables false in
/-- The input without the blanks and empty lines at its start. -/
def skipBlankLines (characters : List Char) : List Char :=
  match ends : afterLineEnd? (skipBlanks characters) with
  | none => skipBlanks characters
  | some rest => skipBlankLines rest
termination_by characters.length
decreasing_by
  exact Nat.lt_of_lt_of_le (length_of_afterLineEnd ends) (length_skipBlanks_le characters)

theorem length_skipBlankLines_le (characters : List Char) :
    (skipBlankLines characters).length ≤ characters.length := by
  fun_induction skipBlankLines characters with
  | case1 characters ends => exact length_skipBlanks_le characters
  | case2 characters rest ends inductionHypothesis =>
    exact Nat.le_trans inductionHypothesis (Nat.le_of_lt
      (Nat.lt_of_lt_of_le (length_of_afterLineEnd ends) (length_skipBlanks_le characters)))

set_option linter.unusedVariables false in
/-- The input without the blanks, comments and ends of lines at its start. -/
def skipTrivia (characters : List Char) : List Char :=
  match ends : afterLineEnd? (skipComment (skipBlanks characters)) with
  | none => skipComment (skipBlanks characters)
  | some rest => skipTrivia rest
termination_by characters.length
decreasing_by
  exact Nat.lt_of_lt_of_le (length_of_afterLineEnd ends)
    (Nat.le_trans (length_skipComment_le _) (length_skipBlanks_le characters))

theorem length_skipTrivia_le (characters : List Char) :
    (skipTrivia characters).length ≤ characters.length := by
  fun_induction skipTrivia characters with
  | case1 characters ends =>
    exact Nat.le_trans (length_skipComment_le _) (length_skipBlanks_le characters)
  | case2 characters rest ends inductionHypothesis =>
    exact Nat.le_trans inductionHypothesis (Nat.le_of_lt
      (Nat.lt_of_lt_of_le (length_of_afterLineEnd ends)
        (Nat.le_trans (length_skipComment_le _) (length_skipBlanks_le characters))))

end Phrasebook.Toml
