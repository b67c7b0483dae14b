/-
This file skips JSON values whose contents do not matter. A value that is skipped
is checked for its form only: it may be nested to any depth, its numbers may have
any size, and its surrogates need no partners. The objects and arrays that are
open are kept on a stack of their own, and the walk is in one of three phases: a
value is due, or a member name is, or a comma or an end may follow. Each step
reads a character or passes to an earlier phase, so the walk ends.
-/

import Phrasebook.Json.Numeral

namespace Phrasebook.Json

open Text (Shorter)

/-- An object or an array that is open. -/
inductive Opened
  | list
  | object
deriving DecidableEq, Repr

/-- What is due in a walk over a value. -/
inductive Phase
  | value
  | member
  /-- An end, or also a comma if the innermost opened thing has contents already. -/
  | closing (afterValue : Bool)
deriving DecidableEq, Repr

/-- A phase passes to a smaller one without reading. -/
def Phase.rank : Phase → Nat
  | .value => 0
  | .member => 1
  | .closing _ => 2

/-- What is due at the start of the contents, or behind a comma. -/
def Opened.next : Opened → Phase
  | .list => .value
  | .object => .member

theorem Opened.rank_next_lt (opened : Opened) (afterValue : Bool) :
    opened.next.rank < (Phase.closing afterValue).rank := by
  cases opened <;> simp [Opened.next, Phase.rank]

/-- Skips the letters of a word behind the first one. -/
def skipWord (letters : List Char) (first : Char) (rest : List Char) :
    Except Fault (Shorter (first :: rest).length) :=
  match readWord letters rest with
  | .error fault => .error fault
  | .ok ⟨after, shorter⟩ => .ok ⟨after, Nat.lt_succ_of_le shorter⟩

/-- Skips a value that holds no other value, the first character of which has been looked at. -/
def skipScalar : (characters : List Char) → Except Fault (Shorter characters.length)
  | [] => .error .endInValue
  | 'n' :: rest => skipWord "ull".toList 'n' rest
  | 't' :: rest => skipWord "rue".toList 't' rest
  | 'f' :: rest => skipWord "alse".toList 'f' rest
  | '"' :: rest => skipText rest
  | first :: rest =>
    if first = '-' ∨ first.isDigit then skipNumber (first :: rest) else .error .expectedValue

/-- Skips a value that holds no other value, or the start of one that does. -/
def skipStart (characters : List Char) :
    Except Fault (Option Opened × Shorter characters.length) :=
  match same : skipSpaces characters with
  | [] => .error .endInValue
  | '[' :: rest => .ok (some .list, ⟨rest, length_lt_of_skipSpaces same⟩)
  | '{' :: rest => .ok (some .object, ⟨rest, length_lt_of_skipSpaces same⟩)
  | first :: rest =>
    match skipScalar (first :: rest) with
    | .error fault => .error fault
    | .ok ⟨after, shorter⟩ =>
      .ok (none, ⟨after, shorter_of_skipSpaces same shorter⟩)

/-- Walks on with these things opened, innermost first. -/
def skipFrom (length : Nat) (stack : List Opened) (phase : Phase) (characters : List Char)
    (within : characters.length < length) : Except Fault (Shorter length) :=
  match phase with
  | .value =>
    match skipStart characters with
    | .error fault => .error fault
    | .ok (some opened, ⟨rest, shorter⟩) =>
      skipFrom length (opened :: stack) (.closing false) rest (Nat.lt_trans shorter within)
    | .ok (none, ⟨rest, shorter⟩) =>
      match stack with
      | [] => .ok ⟨rest, Nat.lt_trans shorter within⟩
      | opened :: outer =>
        skipFrom length (opened :: outer) (.closing true) rest (Nat.lt_trans shorter within)
  | .member =>
    match same : skipSpaces characters with
    | [] => .error .endInObject
    | '"' :: rest =>
      match skipText rest with
      | .error fault => .error fault
      | .ok ⟨named, shorter⟩ =>
        match sameAfter : skipSpaces named with
        | [] => .error .endInObject
        | ':' :: after =>
          have lessThanHere : after.length < characters.length := by
            have first := length_lt_of_skipSpaces same
            have second := length_lt_of_skipSpaces sameAfter
            omega
          skipFrom length stack .value after (Nat.lt_trans lessThanHere within)
        | _ => .error .expectedColon
    | _ => .error .keyMustBeString
  | .closing afterValue =>
    match stack with
    | [] => .ok ⟨characters, within⟩
    | opened :: outer =>
      match same : skipSpaces characters with
      | [] =>
        match opened with
        | .list => .error .endInList
        | .object => .error .endInObject
      | first :: rest =>
        have lessThanHere : rest.length < characters.length := length_lt_of_skipSpaces same
        if first = ',' ∧ afterValue = true then
          skipFrom length (opened :: outer) opened.next rest (Nat.lt_trans lessThanHere within)
        else if (first = ']' ∧ opened = .list) ∨ (first = '}' ∧ opened = .object) then
          match outer with
          | [] => .ok ⟨rest, Nat.lt_trans lessThanHere within⟩
          | enclosing :: others =>
            skipFrom length (enclosing :: others) (.closing true) rest
              (Nat.lt_trans lessThanHere within)
        else if afterValue then
          match opened with
          | .list => .error .expectedListCommaOrEnd
          | .object => .error .expectedObjectCommaOrEnd
        else skipFrom length (opened :: outer) opened.next characters within
termination_by (characters.length, phase.rank)
decreasing_by
  · exact Prod.Lex.left _ _ shorter
  · exact Prod.Lex.left _ _ shorter
  · exact Prod.Lex.left _ _ lessThanHere
  · exact Prod.Lex.left _ _ lessThanHere
  · exact Prod.Lex.left _ _ lessThanHere
  · exact Prod.Lex.right _ (opened.rank_next_lt afterValue)

/-- Skips one value. -/
def skipValue (characters : List Char) : Except Fault (Shorter characters.length) :=
  match skipStart characters with
  | .error fault => .error fault
  | .ok (none, rest) => .ok rest
  | .ok (some opened, ⟨rest, shorter⟩) =>
    skipFrom characters.length [opened] (.closing false) rest shorter

end Phrasebook.Json
