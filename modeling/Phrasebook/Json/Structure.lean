/-
This file reads the punctuation of JSON objects and arrays: the way to the next
key or element, and the colon behind a key. Each reader stands behind an opening,
where no comma may come, or behind a value, where a comma must come before
anything else.
-/

import Phrasebook.Json.Skip

namespace Phrasebook.Json

open Text (Shorter)

/-- Reads a key whose place `characters` is what is left of a longer input. -/
def readKeyAt {length : Nat} (characters : List Char) (within : characters.length < length) :
    Except Fault (Option String × Shorter length) :=
  match readText characters with
  | .error fault => .error fault
  | .ok (key, ⟨rest, shorter⟩) =>
    .ok (some key, ⟨rest, Nat.lt_of_le_of_lt (Nat.le_of_lt_succ shorter) within⟩)

/-- Reads on to the next key of an object: no key means that the object has ended. -/
def readKey (first : Bool) (characters : List Char) :
    Except Fault (Option String × Shorter characters.length) :=
  match same : skipSpaces characters with
  | [] => .error .endInObject
  | '}' :: rest => .ok (none, ⟨rest, length_lt_of_skipSpaces same⟩)
  | '"' :: rest =>
    if first then readKeyAt rest (length_lt_of_skipSpaces same)
    else .error .expectedObjectCommaOrEnd
  | ',' :: rest =>
    if first then .error .keyMustBeString
    else
      match sameAfter : skipSpaces rest with
      | [] => .error .endInValue
      | '"' :: after =>
        readKeyAt after (Nat.lt_trans (length_lt_of_skipSpaces sameAfter)
          (length_lt_of_skipSpaces same))
      | '}' :: _ => .error .trailingComma
      | _ => .error .keyMustBeString
  | _ => if first then .error .keyMustBeString else .error .expectedObjectCommaOrEnd

/-- Reads the colon behind a key. -/
def readColon (characters : List Char) : Except Fault (Shorter characters.length) :=
  match same : skipSpaces characters with
  | [] => .error .endInObject
  | ':' :: rest => .ok ⟨rest, length_lt_of_skipSpaces same⟩
  | _ => .error .expectedColon

/-- Reads on to the next element of an array: whether there is one, or the array has ended. -/
def readElementStart (first : Bool) (characters : List Char) :
    Except Fault (Bool × { rest : List Char // rest.length ≤ characters.length }) :=
  match same : skipSpaces characters with
  | [] => .error .endInList
  | ']' :: rest => .ok (false, ⟨rest, Nat.le_of_lt (length_lt_of_skipSpaces same)⟩)
  | ',' :: rest =>
    if first then .ok (true, ⟨',' :: rest, same ▸ length_skipSpaces_le characters⟩)
    else
      match skipSpaces rest with
      | [] => .error .endInValue
      | ']' :: _ => .error .trailingComma
      | _ => .ok (true, ⟨rest, Nat.le_of_lt (length_lt_of_skipSpaces same)⟩)
  | other :: rest =>
    if first then .ok (true, ⟨other :: rest, same ▸ length_skipSpaces_le characters⟩)
    else .error .expectedListCommaOrEnd

/-- Accepts an input of which only blanks are left. -/
def readEnd (characters : List Char) : Except Fault Unit :=
  if (skipSpaces characters).isEmpty then .ok () else .error .trailingCharacters

end Phrasebook.Json
