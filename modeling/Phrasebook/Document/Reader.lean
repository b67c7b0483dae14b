/-
This file reads documents from JSON text. Strings and objects are kept; of other
values only the kind is, though numbers still have to be in range. What an array
holds is skipped. Objects and arrays may be nested up to 127 deep outside of
arrays, and the reader recurs on the number of levels that are left.
-/

import Phrasebook.Document.Basic
import Phrasebook.Json.Structure

namespace Phrasebook.Document

open Json
open Text (Shorter)

/-- Skips the elements of an array, up to and with its end. -/
def skipElements (length : Nat) (first : Bool) (characters : List Char)
    (within : characters.length < length) : Except Fault (Shorter length) :=
  match readElementStart first characters with
  | .error fault => .error fault
  | .ok (false, ⟨rest, shorter⟩) => .ok ⟨rest, Nat.lt_of_le_of_lt shorter within⟩
  | .ok (true, ⟨element, shorter⟩) =>
    match skipValue element with
    | .error fault => .error fault
    | .ok ⟨rest, shorterStill⟩ =>
      skipElements length false rest
        (Nat.lt_trans (Nat.lt_of_lt_of_le shorterStill shorter) within)
termination_by characters.length
decreasing_by exact Nat.lt_of_lt_of_le shorterStill shorter

/-- Reads the members of an object, up to and with its end, given a reader of values and the
members so far in reverse. -/
def readMembers (length : Nat)
    (readValue : (characters : List Char) → Except Fault (Document × Shorter characters.length))
    (first : Bool) (found : List (String × Document)) (characters : List Char)
    (within : characters.length < length) :
    Except Fault (List (String × Document) × Shorter length) :=
  match readKey first characters with
  | .error fault => .error fault
  | .ok (none, ⟨rest, shorter⟩) => .ok (found.reverse, ⟨rest, Nat.lt_trans shorter within⟩)
  | .ok (some key, ⟨named, shorterNamed⟩) =>
    match readColon named with
    | .error fault => .error fault
    | .ok ⟨valued, shorterValued⟩ =>
      match readValue valued with
      | .error fault => .error fault
      | .ok (value, ⟨rest, shorterRest⟩) =>
        have lessThanHere : rest.length < characters.length :=
          Nat.lt_trans shorterRest (Nat.lt_trans shorterValued shorterNamed)
        readMembers length readValue false ((key, value) :: found) rest
          (Nat.lt_trans lessThanHere within)
termination_by characters.length
decreasing_by exact lessThanHere

/-- Reads a word that stands for a value of a kind. -/
def readForeignWord (kind : ForeignKind) (letters : List Char) (length : Nat) (rest : List Char)
    (within : rest.length < length) : Except Fault (Document × Shorter length) :=
  match readWord letters rest with
  | .error fault => .error fault
  | .ok ⟨after, shorter⟩ => .ok (.foreign kind, ⟨after, Nat.lt_of_le_of_lt shorter within⟩)

/-- Reads a value in which this many objects and arrays may be nested. -/
def readValue (levels : Nat) (characters : List Char) :
    Except Fault (Document × Shorter characters.length) :=
  match same : skipSpaces characters with
  | [] => .error .endInValue
  | first :: rest =>
    have shorter : rest.length < characters.length := length_lt_of_skipSpaces same
    if first = '{' then
      match levels with
      | 0 => .error .recursionLimit
      | inner + 1 =>
        match readMembers characters.length (readValue inner) true [] rest shorter with
        | .error fault => .error fault
        | .ok (members, after) => .ok (.object members, after)
    else if first = '[' then
      match levels with
      | 0 => .error .recursionLimit
      | _ + 1 =>
        match skipElements characters.length true rest shorter with
        | .error fault => .error fault
        | .ok after => .ok (.foreign .array, after)
    else if first = '"' then
      match readText rest with
      | .error fault => .error fault
      | .ok (content, ⟨after, shorterStill⟩) =>
        .ok (.text content, ⟨after, Nat.lt_of_le_of_lt (Nat.le_of_lt_succ shorterStill) shorter⟩)
    else if first = 'n' then
      readForeignWord .null "ull".toList characters.length rest shorter
    else if first = 't' then
      readForeignWord .boolean "rue".toList characters.length rest shorter
    else if first = 'f' then
      readForeignWord .boolean "alse".toList characters.length rest shorter
    else if first = '-' ∨ first.isDigit then
      match readNumber (first :: rest) with
      | .error fault => .error fault
      | .ok (_, ⟨after, shorterStill⟩) =>
        .ok (.foreign .number,
          ⟨after, Nat.lt_of_le_of_lt (Nat.le_of_lt_succ shorterStill) shorter⟩)
    else .error .expectedValue

/-- The greatest number of nested objects and arrays. -/
def maxLevels : Nat := 127

/-- Reads a whole document. -/
def ofJson (text : String) : Except Fault Document :=
  match readValue maxLevels text.toList with
  | .error fault => .error fault
  | .ok (document, ⟨rest, _⟩) =>
    match readEnd rest with
    | .error fault => .error fault
    | .ok () => .ok document

end Phrasebook.Document
