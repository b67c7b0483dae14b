/-
This file reads TOML strings. Single quotes hold text as it stands, and double
quotes hold text with escapes. Three quotes of either kind hold lines: a line end
right behind the opening is left out, and one or two quotes may stand before the
closing. In double quotes a backslash at the end of a line takes all blanks and
line ends behind it away.
-/

import Phrasebook.Text.Hex
import Phrasebook.Toml.Scanner

namespace Phrasebook.Toml

open Text (Shorter hexValue?)

/-! ### Escapes -/

/-- Reads this many hexadecimal digits. -/
def readHex : (count value : Nat) → (characters : List Char) →
    Option (Nat × { rest : List Char // rest.length ≤ characters.length })
  | 0, value, characters => some (value, ⟨characters, Nat.le_refl _⟩)
  | _ + 1, _, [] => none
  | count + 1, value, character :: rest =>
    match hexValue? character with
    | none => none
    | some digit =>
      match readHex count (value * 16 + digit) rest with
      | none => none
      | some (code, ⟨after, shorter⟩) => some (code, ⟨after, Nat.le_succ_of_le shorter⟩)

/-- Reads the code point of an escape, which has to be the one of a character. -/
def readCodePoint (count : Nat) (characters : List Char) :
    Option (Char × { rest : List Char // rest.length ≤ characters.length }) :=
  match readHex count 0 characters with
  | none => none
  | some (code, rest) => if code.isValidChar then some (Char.ofNat code, rest) else none

/-- The character that a letter after a backslash stands for. -/
def simpleEscape? : Char → Option Char
  | 'b' => some '\x08'
  | 't' => some '\t'
  | 'n' => some '\n'
  | 'f' => some '\x0c'
  | 'r' => some '\r'
  | '"' => some '"'
  | '\\' => some '\\'
  | _ => none

/-- Reads what follows a backslash. -/
def readEscape : (characters : List Char) → Option (Char × Shorter characters.length)
  | [] => none
  | letter :: rest =>
    if letter = 'u' then
      match readCodePoint 4 rest with
      | none => none
      | some (character, ⟨after, within⟩) =>
        some (character, ⟨after, Nat.lt_add_one_of_le within⟩)
    else if letter = 'U' then
      match readCodePoint 8 rest with
      | none => none
      | some (character, ⟨after, within⟩) =>
        some (character, ⟨after, Nat.lt_add_one_of_le within⟩)
    else
      match simpleEscape? letter with
      | none => none
      | some character => some (character, ⟨rest, Nat.lt_add_one rest.length⟩)

/-! ### Strings on one line -/

/-- Reads on in double quotes, with the text so far. -/
def readEscapedFrom (length : Nat) (built : String) (characters : List Char)
    (within : characters.length < length) : Option (String × Shorter length) :=
  match characters with
  | [] => none
  | '"' :: rest => some (built, ⟨rest, Nat.lt_trans (Nat.lt_succ_self _) within⟩)
  | '\\' :: rest =>
    match readEscape rest with
    | none => none
    | some (character, ⟨after, shorter⟩) =>
      readEscapedFrom length (built.push character) after
        (Nat.lt_trans (Nat.lt_succ_of_lt shorter) within)
  | character :: rest =>
    if isPlainCharacter character then
      readEscapedFrom length (built.push character) rest
        (Nat.lt_trans (Nat.lt_succ_self _) within)
    else none
termination_by characters.length
decreasing_by
  · simp_wf
    omega
  · simp_wf

/-- Reads on in single quotes, with the text so far. -/
def readVerbatimFrom (length : Nat) (built : String) :
    (characters : List Char) → (within : characters.length < length) →
      Option (String × Shorter length)
  | [], _ => none
  | character :: rest, within =>
    if character = '\'' then some (built, ⟨rest, Nat.lt_trans (Nat.lt_succ_self _) within⟩)
    else if isPlainCharacter character then
      readVerbatimFrom length (built.push character) rest
        (Nat.lt_trans (Nat.lt_succ_self _) within)
    else none

/-- Reads a string on one line behind its opening quote. -/
def readLine (quote : Char) (characters : List Char) :
    Option (String × Shorter (characters.length + 1)) :=
  have within : characters.length < characters.length + 1 := Nat.lt_add_one characters.length
  if quote = '"' then readEscapedFrom (characters.length + 1) "" characters within
  else readVerbatimFrom (characters.length + 1) "" characters within

/-! ### Strings of several lines -/

/-- What follows three quotes, and how many of the quotes before it belong to the text: of at
most five quotes the last three close the string. -/
def afterClosing? (quote : Char) : List Char → Option (Nat × List Char)
  | first :: second :: third :: rest =>
    if first = quote ∧ second = quote ∧ third = quote then
      match rest with
      | fourth :: fifth :: more =>
        if fourth = quote then
          if fifth = quote then some (2, more) else some (1, fifth :: more)
        else some (0, rest)
      | [fourth] => if fourth = quote then some (1, []) else some (0, rest)
      | [] => some (0, [])
    else none
  | _ => none

theorem length_of_afterClosing {quote : Char} {characters rest : List Char} {count : Nat}
    (closes : afterClosing? quote characters = some (count, rest)) :
    rest.length < characters.length := by
  unfold afterClosing? at closes
  split at closes
  · split at closes
    · split at closes
      · split at closes
        · split at closes
          · cases closes
            simp only [List.length_cons]
            omega
          · cases closes
            simp only [List.length_cons]
            omega
        · cases closes
          simp only [List.length_cons]
          omega
      · split at closes
        · cases closes
          simp
        · cases closes
          simp
      · cases closes
        simp
    · cases closes
  · cases closes

/-- What follows a backslash at the end of a line, with the blanks and line ends gone. -/
def afterLineBackslash? (characters : List Char) : Option (List Char) :=
  (afterLineEnd? (skipBlanks characters)).map skipBlankLines

theorem length_of_afterLineBackslash {characters rest : List Char}
    (joins : afterLineBackslash? characters = some rest) : rest.length < characters.length := by
  unfold afterLineBackslash? at joins
  obtain ⟨after, ends, same⟩ := Option.map_eq_some_iff.mp joins
  rw [← same]
  exact Nat.lt_of_le_of_lt (length_skipBlankLines_le after)
    (Nat.lt_of_lt_of_le (length_of_afterLineEnd ends) (length_skipBlanks_le characters))

/-- The text with this many quotes behind it. -/
def pushQuotes (quote : Char) (built : String) (count : Nat) : String :=
  built ++ String.ofList (List.replicate count quote)

/-- Reads on between three quotes, with the text so far. -/
def readLinesFrom (quote : Char) (length : Nat) (built : String) (characters : List Char)
    (within : characters.length < length) : Option (String × Shorter length) :=
  match closes : afterClosing? quote characters with
  | some (count, rest) =>
    some (pushQuotes quote built count, ⟨rest, Nat.lt_trans (length_of_afterClosing closes) within⟩)
  | none =>
    match characters with
    | [] => none
    | character :: rest =>
      if character = '\\' ∧ quote = '"' then
        match joins : afterLineBackslash? rest with
        | some after =>
          have shorter : after.length < rest.length + 1 :=
            Nat.lt_succ_of_lt (length_of_afterLineBackslash joins)
          readLinesFrom quote length built after (Nat.lt_trans shorter within)
        | none =>
          match readEscape rest with
          | none => none
          | some (escaped, ⟨after, shorter⟩) =>
            readLinesFrom quote length (built.push escaped) after
              (Nat.lt_trans (Nat.lt_succ_of_lt shorter) within)
      else if isPlainCharacter character ∨ character = '\n' then
        readLinesFrom quote length (built.push character) rest
          (Nat.lt_trans (Nat.lt_succ_self _) within)
      else if character = '\r' ∧ rest.head? = some '\n' then
        readLinesFrom quote length (built.push character) rest
          (Nat.lt_trans (Nat.lt_succ_self _) within)
      else none
termination_by characters.length
decreasing_by
  · exact shorter
  · exact Nat.lt_succ_of_lt shorter
  · exact Nat.lt_succ_self _
  · exact Nat.lt_succ_self _

/-- Reads a string of several lines behind its opening quotes. -/
def readLines (quote : Char) (length : Nat) (characters : List Char)
    (within : characters.length < length) : Option (String × Shorter length) :=
  match ends : afterLineEnd? characters with
  | none => readLinesFrom quote length "" characters within
  | some rest =>
    readLinesFrom quote length "" rest (Nat.lt_trans (length_of_afterLineEnd ends) within)

/-- Reads a string of either form behind its first quote. -/
def readQuoted (quote : Char) (characters : List Char) :
    Option (String × Shorter (characters.length + 1)) :=
  match characters with
  | second :: third :: rest =>
    if second = quote ∧ third = quote then
      readLines quote (rest.length + 3) rest (by omega)
    else readLine quote (second :: third :: rest)
  | characters => readLine quote characters

end Phrasebook.Toml
