/-
This file writes texts so that a person sees every character of them: between
quotation marks, with an escape for each character that would end the text or
that cannot be seen.
-/

import Phrasebook.Text.Visible

namespace Phrasebook.Text

/-- A character as it stands in an exposed text. -/
def exposeChar (character : Char) : String :=
  if character = '\x00' then "\\0"
  else if character = '\t' then "\\t"
  else if character = '\r' then "\\r"
  else if character = '\n' then "\\n"
  else if character = '"' then "\\\""
  else if character = '\\' then "\\\\"
  else if isVisible character then character.toString
  else "\\u\x7b" ++ String.ofList (Nat.toDigits 16 character.toNat) ++ "\x7d"

/-- The text between quotation marks, every character of it to be seen. -/
def expose (text : String) : String :=
  "\"" ++ String.join (text.toList.map exposeChar) ++ "\""

example : expose "a\"\n\x7fé" = "\"a\\\"\\n\\u\x7b7f\x7dé\"" := by decide +kernel

end Phrasebook.Text
