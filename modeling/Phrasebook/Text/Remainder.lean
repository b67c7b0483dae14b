/-
This file gives readers of text their results. A reader takes what is left of an
input and gives back what is left behind the part that it read. That this is
shorter is part of the result, so readers that call each other end.
-/

namespace Phrasebook.Text

/-- What is left of an input, shorter than `length`. -/
abbrev Shorter (length : Nat) : Type := { rest : List Char // rest.length < length }

/-- What follows the first character that is not skipped is left of the input. -/
theorem length_lt_of_dropWhile {skipped : Char → Bool} {characters rest : List Char}
    {first : Char} (same : characters.dropWhile skipped = first :: rest) :
    rest.length < characters.length := by
  have bounded := (List.dropWhile_suffix (l := characters) skipped).length_le
  rw [same, List.length_cons] at bounded
  exact bounded

end Phrasebook.Text
