/-
This file reads single values of a certain kind from JSON: texts, sizes, and
nothing. Each reader skips the blanks before the value.
-/

import Phrasebook.Json.Mismatch

namespace Phrasebook.Json

open Text (Shorter)

/-- Reads a text. -/
def decodeText (characters : List Char) :
    Except DecodeError (String × Shorter characters.length) :=
  match same : skipSpaces characters with
  | [] => .error (.notJson .endInValue)
  | first :: rest =>
    if first = '"' then
      match readText rest with
      | .error fault => .error (.notJson fault)
      | .ok (content, ⟨after, shorter⟩) =>
        .ok (content,
          ⟨after, Nat.lt_of_le_of_lt (Nat.le_of_lt_succ shorter) (length_lt_of_skipSpaces same)⟩)
    else .error (mismatch .text first rest)

/-- Reads a size, a natural number below `2^64`. -/
def decodeSize (characters : List Char) :
    Except DecodeError (Nat × Shorter characters.length) :=
  match same : skipSpaces characters with
  | [] => .error (.notJson .endInValue)
  | first :: rest =>
    if first = '-' ∨ first.isDigit then
      match readNumber (first :: rest) with
      | .error fault => .error (.notJson fault)
      | .ok (.natural value, ⟨after, shorter⟩) =>
        .ok (value, ⟨after, shorter_of_skipSpaces same shorter⟩)
      | .ok (.negative magnitude, _) =>
        .error (.wrongValue (.number (.negative magnitude)) .size)
      | .ok (number, _) => .error (.wrongKind (.number number) .size)
    else .error (mismatch .size first rest)

/-- Reads the word for nothing. -/
def decodeNothing (characters : List Char) :
    Except DecodeError (Shorter characters.length) :=
  match same : skipSpaces characters with
  | [] => .error (.notJson .endInValue)
  | first :: rest =>
    if first = 'n' then
      match readWord "ull".toList rest with
      | .error fault => .error (.notJson fault)
      | .ok ⟨after, shorter⟩ =>
        .ok ⟨after, Nat.lt_of_le_of_lt shorter (length_lt_of_skipSpaces same)⟩
    else .error (mismatch .nothing first rest)

end Phrasebook.Json
