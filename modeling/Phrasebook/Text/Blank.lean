/-
This file says which characters are blank and what it means to trim a text. A
character is blank when Unicode gives it the property `White_Space`: twenty-five
code points, which leave out the zero width space and the byte order mark. A
trimmed text starts and ends with characters that are not blank.
-/

namespace Phrasebook.Text

/-! ### Blank characters -/

/-- The code points with the property `White_Space`, as inclusive ranges in increasing order. -/
def blankRanges : List (Nat × Nat) :=
  [(0x09, 0x0d), (0x20, 0x20), (0x85, 0x85), (0xa0, 0xa0), (0x1680, 0x1680), (0x2000, 0x200a),
    (0x2028, 0x2029), (0x202f, 0x202f), (0x205f, 0x205f), (0x3000, 0x3000)]

/-- A character is blank when its code point lies in one of the ranges. -/
def isBlank (character : Char) : Bool :=
  blankRanges.any fun range =>
    decide (range.1 ≤ character.toNat ∧ character.toNat ≤ range.2)

example : (blankRanges.map fun range => range.2 - range.1 + 1).sum = 25 := by decide

/-! ### Trimming -/

/-- The characters without the blank ones at either end. -/
def trimChars (characters : List Char) : List Char :=
  ((characters.dropWhile isBlank).reverse.dropWhile isBlank).reverse

/-- The text without the blank characters at either end. -/
def trim (text : String) : String :=
  String.ofList (trimChars text.toList)

theorem toList_trim (text : String) : (trim text).toList = trimChars text.toList := by
  simp [trim]

end Phrasebook.Text
