/-
This file reads the smallest parts of JSON: blanks, words, escapes and strings.
There are two ways of reading a string: to keep it, which decodes escapes and
pairs surrogates, and to skip it, which only checks its form.
-/

import Phrasebook.Json.Fault
import Phrasebook.Text.Bytes
import Phrasebook.Text.Hex
import Phrasebook.Text.Remainder

namespace Phrasebook.Json

open Text (Shorter hexValue?)

/-! ### Blanks and words -/

/-- The four blank characters of JSON. -/
def isSpace (character : Char) : Bool :=
  character == ' ' || character == '\n' || character == '\t' || character == '\r'

/-- The input without the blanks at its start. -/
def skipSpaces (characters : List Char) : List Char :=
  characters.dropWhile isSpace

theorem length_skipSpaces_le (characters : List Char) :
    (skipSpaces characters).length ≤ characters.length :=
  (List.dropWhile_suffix isSpace).length_le

theorem length_lt_of_skipSpaces {characters rest : List Char} {first : Char}
    (same : skipSpaces characters = first :: rest) : rest.length < characters.length :=
  Text.length_lt_of_dropWhile same

theorem shorter_of_skipSpaces {characters rest after : List Char} {first : Char}
    (same : skipSpaces characters = first :: rest)
    (shorter : after.length < (first :: rest).length) : after.length < characters.length :=
  Nat.lt_of_lt_of_le shorter (same ▸ length_skipSpaces_le characters)

/-- Reads the letters of a word, the first of which has been read. -/
def readWord : (letters characters : List Char) →
    Except Fault { rest : List Char // rest.length ≤ characters.length }
  | [], characters => .ok ⟨characters, Nat.le_refl _⟩
  | _ :: _, [] => .error .endInValue
  | letter :: letters, character :: rest =>
    if letter = character then
      match readWord letters rest with
      | .error fault => .error fault
      | .ok ⟨after, shorter⟩ => .ok ⟨after, Nat.le_succ_of_le shorter⟩
    else .error .expectedWord

/-! ### Escapes -/

/-- Reads four hexadecimal digits. The input has to have four more bytes before the digits
themselves are looked at. -/
def readHexGroup : (characters : List Char) → Except Fault (Nat × Shorter characters.length)
  | first :: second :: third :: fourth :: rest =>
    match hexValue? first, hexValue? second, hexValue? third, hexValue? fourth with
    | some a, some b, some c, some d =>
      .ok (((a * 16 + b) * 16 + c) * 16 + d, ⟨rest, by simp only [List.length_cons]; omega⟩)
    | _, _, _, _ => .error .invalidEscape
  | characters =>
    if 4 ≤ Text.byteLength characters then .error .invalidEscape else .error .endInString

/-- Whether a code unit is the first half of a surrogate pair. -/
def isHighSurrogate (unit : Nat) : Bool :=
  decide (0xd800 ≤ unit ∧ unit ≤ 0xdbff)

/-- Whether a code unit is the second half of a surrogate pair. -/
def isLowSurrogate (unit : Nat) : Bool :=
  decide (0xdc00 ≤ unit ∧ unit ≤ 0xdfff)

/-- Reads the second half of a surrogate pair, which has to follow as another escape. -/
def readPartner (high : Nat) : (characters : List Char) →
    Except Fault (Char × Shorter characters.length)
  | [] => .error .endInString
  | ['\\'] => .error .endInString
  | '\\' :: 'u' :: digits =>
    match readHexGroup digits with
    | .error fault => .error fault
    | .ok (low, ⟨rest, shorter⟩) =>
      if isLowSurrogate low then
        .ok (Char.ofNat ((high - 0xd800) * 0x400 + (low - 0xdc00) + 0x10000),
          ⟨rest, by simp only [List.length_cons]; omega⟩)
      else .error .loneSurrogate
  | _ => .error .unexpectedEndOfEscape

/-- Reads what follows `\u`. -/
def readUnicodeEscape (characters : List Char) :
    Except Fault (Char × Shorter characters.length) :=
  match readHexGroup characters with
  | .error fault => .error fault
  | .ok (unit, ⟨rest, shorter⟩) =>
    if isLowSurrogate unit then .error .loneSurrogate
    else if isHighSurrogate unit then
      match readPartner unit rest with
      | .error fault => .error fault
      | .ok (character, ⟨after, shorterStill⟩) =>
        .ok (character, ⟨after, Nat.lt_trans shorterStill shorter⟩)
    else .ok (Char.ofNat unit, ⟨rest, shorter⟩)

/-- The character that a letter after a backslash stands for. -/
def simpleEscape? : Char → Option Char
  | '"' => some '"'
  | '\\' => some '\\'
  | '/' => some '/'
  | 'b' => some '\x08'
  | 'f' => some '\x0c'
  | 'n' => some '\n'
  | 'r' => some '\r'
  | 't' => some '\t'
  | _ => none

/-- Reads what follows a backslash. -/
def readEscape : (characters : List Char) → Except Fault (Char × Shorter characters.length)
  | [] => .error .endInString
  | 'u' :: rest =>
    match readUnicodeEscape rest with
    | .error fault => .error fault
    | .ok (character, ⟨after, shorter⟩) => .ok (character, ⟨after, Nat.lt_succ_of_lt shorter⟩)
  | letter :: rest =>
    match simpleEscape? letter with
    | some character => .ok (character, ⟨rest, Nat.lt_succ_self _⟩)
    | none => .error .invalidEscape

/-- Skips what follows a backslash. Surrogates need no partner here. -/
def skipEscape : (characters : List Char) → Except Fault (Shorter characters.length)
  | [] => .error .endInString
  | 'u' :: rest =>
    match readHexGroup rest with
    | .error fault => .error fault
    | .ok (_, ⟨after, shorter⟩) => .ok ⟨after, Nat.lt_succ_of_lt shorter⟩
  | letter :: rest =>
    if (simpleEscape? letter).isSome then .ok ⟨rest, Nat.lt_succ_self _⟩
    else .error .invalidEscape

/-! ### Strings -/

/-- Reads on inside a string, with the characters read so far. -/
def readTextFrom (length : Nat) (built : String) (characters : List Char)
    (within : characters.length < length) : Except Fault (String × Shorter length) :=
  match characters with
  | [] => .error .endInString
  | '"' :: rest => .ok (built, ⟨rest, Nat.lt_trans (Nat.lt_succ_self _) within⟩)
  | '\\' :: rest =>
    match readEscape rest with
    | .error fault => .error fault
    | .ok (character, ⟨after, shorter⟩) =>
      readTextFrom length (built.push character) after
        (Nat.lt_trans (Nat.lt_succ_of_lt shorter) within)
  | character :: rest =>
    if character.toNat < 0x20 then .error .controlCharacter
    else
      readTextFrom length (built.push character) rest
        (Nat.lt_trans (Nat.lt_succ_self _) within)
termination_by characters.length
decreasing_by
  · simp_wf
    omega
  · simp_wf

/-- Reads a string whose opening quotation mark has been read. -/
def readText (characters : List Char) : Except Fault (String × Shorter (characters.length + 1)) :=
  readTextFrom (characters.length + 1) "" characters (Nat.lt_succ_self _)

/-- Skips on inside a string. -/
def skipTextFrom (length : Nat) (characters : List Char) (within : characters.length < length) :
    Except Fault (Shorter length) :=
  match characters with
  | [] => .error .endInString
  | '"' :: rest => .ok ⟨rest, Nat.lt_trans (Nat.lt_succ_self _) within⟩
  | '\\' :: rest =>
    match skipEscape rest with
    | .error fault => .error fault
    | .ok ⟨after, shorter⟩ =>
      skipTextFrom length after (Nat.lt_trans (Nat.lt_succ_of_lt shorter) within)
  | character :: rest =>
    if character.toNat < 0x20 then .error .controlCharacter
    else skipTextFrom length rest (Nat.lt_trans (Nat.lt_succ_self _) within)
termination_by characters.length
decreasing_by
  · simp_wf
    omega
  · simp_wf

/-- Skips a string whose opening quotation mark has been read. -/
def skipText (characters : List Char) : Except Fault (Shorter (characters.length + 1)) :=
  skipTextFrom (characters.length + 1) characters (Nat.lt_succ_self _)

end Phrasebook.Json
