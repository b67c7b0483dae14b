/-
This file writes texts as JSON strings. A quotation mark, a backslash and the
control characters are escaped, the five that have one with their short escape,
and every other character stands for itself. So no line feed is left inside a
written string, and a record written with such strings keeps to one line.
-/

namespace Phrasebook.Json

/-- The lower case hexadecimal digit of a value below sixteen. -/
def hexDigit (value : Nat) : Char :=
  if value < 10 then Char.ofNat (value + 48) else Char.ofNat (value + 87)

/-- A character as it stands inside a JSON string. -/
def escape (character : Char) : List Char :=
  if character = '"' then ['\\', '"']
  else if character = '\\' then ['\\', '\\']
  else if character = '\x08' then ['\\', 'b']
  else if character = '\x0c' then ['\\', 'f']
  else if character = '\n' then ['\\', 'n']
  else if character = '\r' then ['\\', 'r']
  else if character = '\t' then ['\\', 't']
  else if character.toNat < 0x20 then
    ['\\', 'u', '0', '0', hexDigit (character.toNat / 16), hexDigit (character.toNat % 16)]
  else [character]

/-- The text as a JSON string, with its quotation marks. -/
def quote (text : String) : String :=
  String.ofList ('"' :: (text.toList.flatMap escape ++ ['"']))

example : quote "a\n\x01\"" = "\"a\\n\\u0001\\\"\"" := by decide

end Phrasebook.Json
