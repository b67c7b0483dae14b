/-
This file reads TOML documents. A document is read into lines that say something,
and the lines are put together afterwards; a document with a fault of either kind
is no document, and the reader does not say which fault it was. A key has up to 80
parts, and arrays and tables in braces may be nested up to 80 deep; the readers of
keys and of values recur on the number of parts or levels that are left.
-/

import Phrasebook.Toml.Quoted
import Phrasebook.Toml.Tree
import Phrasebook.Toml.Word

namespace Phrasebook.Toml

open Text (Shorter)

/-! ### Keys -/

/-- Whether a character can stand in a key without quotes. -/
def isBareCharacter (character : Char) : Bool :=
  character.isAlphanum || character == '_' || character == '-'

/-- Reads a part of a key. -/
def readPart : (characters : List Char) → Option (String × Shorter characters.length)
  | [] => none
  | first :: rest =>
    if first = '"' ∨ first = '\'' then readLine first rest
    else if isBareCharacter first then
      some (String.ofList (first :: rest.takeWhile isBareCharacter),
        ⟨rest.dropWhile isBareCharacter,
          Nat.lt_succ_of_le (List.dropWhile_suffix isBareCharacter).length_le⟩)
    else none

/-- Reads at most this many parts of a key, with those before in reverse. -/
def readKeyFrom (above : List String) : (parts : Nat) → (characters : List Char) →
    Option (Key × Shorter characters.length)
  | 0, _ => none
  | parts + 1, characters =>
    match readPart characters with
    | none => none
    | some (name, ⟨after, shorter⟩) =>
      match same : skipBlanks after with
      | '.' :: rest =>
        have bounded : (skipBlanks rest).length < characters.length :=
          Nat.lt_of_le_of_lt (length_skipBlanks_le rest)
            (Nat.lt_trans (length_lt_of_skipBlanks same) shorter)
        match readKeyFrom (name :: above) parts (skipBlanks rest) with
        | none => none
        | some (key, ⟨last, shorterLast⟩) => some (key, ⟨last, Nat.lt_trans shorterLast bounded⟩)
      | _ => some (⟨above.reverse, name⟩, ⟨after, shorter⟩)

/-- The greatest number of parts of a key. -/
def maxParts : Nat := 80

/-- Reads a key with dots. -/
def readKey (characters : List Char) : Option (Key × Shorter characters.length) :=
  readKeyFrom [] maxParts characters

/-! ### Values -/

theorem length_lt_of_skipTrivia {characters rest : List Char} {first : Char}
    (same : skipTrivia characters = first :: rest) : rest.length < characters.length := by
  have trivia := length_skipTrivia_le characters
  rwa [same, List.length_cons] at trivia

/-- What follows an element and the sign behind it is shorter than what the element starts
in. -/
theorem length_lt_of_skipTrivia_behind {characters rest after next : List Char}
    {first second : Char} (bounded : rest.length < characters.length)
    (shorter : after.length < (first :: rest).length)
    (same : skipTrivia after = second :: next) : next.length < characters.length := by
  have later := length_lt_of_skipTrivia same
  rw [List.length_cons] at shorter
  omega

/-- Reads the elements of an array, up to and with its end, given a reader of values and the
elements so far in reverse. -/
def readElements (length : Nat)
    (readValue : (characters : List Char) → Option (Value × Shorter characters.length))
    (found : List Value) (characters : List Char) (within : characters.length < length) :
    Option (Value × Shorter length) :=
  match same : skipTrivia characters with
  | [] => none
  | first :: rest =>
    have bounded : rest.length < characters.length := length_lt_of_skipTrivia same
    if first = ']' then
      some (.list found.reverse, ⟨rest, Nat.lt_trans bounded within⟩)
    else
      match readValue (first :: rest) with
      | none => none
      | some (value, ⟨after, shorter⟩) =>
        match sameAfter : skipTrivia after with
        | [] => none
        | second :: next =>
          have shorterNext : next.length < characters.length :=
            length_lt_of_skipTrivia_behind bounded shorter sameAfter
          if second = ',' then
            readElements length readValue (value :: found) next
              (Nat.lt_trans shorterNext within)
          else if second = ']' then
            some (.list (value :: found).reverse, ⟨next, Nat.lt_trans shorterNext within⟩)
          else none
termination_by characters.length
decreasing_by exact shorterNext

/-- Reads a key with its value, given a reader of values. -/
def readPair
    (readValue : (characters : List Char) → Option (Value × Shorter characters.length))
    (characters : List Char) : Option (Key × Value × Shorter characters.length) :=
  match readKey characters with
  | none => none
  | some (key, ⟨named, shorter⟩) =>
    match same : skipBlanks named with
    | '=' :: valued =>
      have bounded : (skipBlanks valued).length < characters.length :=
        Nat.lt_of_le_of_lt (length_skipBlanks_le valued)
          (Nat.lt_trans (length_lt_of_skipBlanks same) shorter)
      match readValue (skipBlanks valued) with
      | none => none
      | some (value, ⟨rest, shorterRest⟩) =>
        some (key, value, ⟨rest, Nat.lt_trans shorterRest bounded⟩)
    | _ => none

/-- Reads the pairs of a table in braces, up to and with its end, given a reader of values and
the members so far. -/
def readPairs (length : Nat)
    (readValue : (characters : List Char) → Option (Value × Shorter characters.length))
    (members : Members) (characters : List Char) (within : characters.length < length) :
    Option (Value × Shorter length) :=
  match readPair readValue (skipBlanks characters) with
  | none => none
  | some (key, value, ⟨after, shorter⟩) =>
    match assign key value .inline members with
    | none => none
    | some grown =>
      match same : skipBlanks after with
      | [] => none
      | first :: rest =>
        have shorterRest : rest.length < characters.length :=
          Nat.lt_trans (length_lt_of_skipBlanks same)
            (Nat.lt_of_lt_of_le shorter (length_skipBlanks_le characters))
        if first = ',' then
          readPairs length readValue grown rest (Nat.lt_trans shorterRest within)
        else if first = '}' then
          some (.table .inline grown, ⟨rest, Nat.lt_trans shorterRest within⟩)
        else none
termination_by characters.length
decreasing_by exact shorterRest

/-- Reads a table in braces behind the opening one, given a reader of values. -/
def readBraces (length : Nat)
    (readValue : (characters : List Char) → Option (Value × Shorter characters.length))
    (characters : List Char) (within : characters.length < length) :
    Option (Value × Shorter length) :=
  match same : skipBlanks characters with
  | '}' :: rest =>
    some (.table .inline [], ⟨rest, Nat.lt_trans (length_lt_of_skipBlanks same) within⟩)
  | _ => readPairs length readValue [] characters within

theorem length_of_splitWord (first : Char) (rest : List Char) (starts : isWordCharacter first) :
    (splitWord (first :: rest)).2.length < (first :: rest).length := by
  have shorter := (List.dropWhile_suffix (l := rest) isWordCharacter).length_le
  have shorterTail := (List.dropWhile_suffix
    (l := ((first :: rest).dropWhile isWordCharacter).tail) isWordCharacter).length_le
  unfold splitWord
  simp only [List.dropWhile_cons, starts, if_true, List.length_cons, List.length_tail] at *
  split <;> simp only <;> omega

/-- Reads a value in which this many arrays and tables in braces may be nested. -/
def readValue (levels : Nat) (characters : List Char) :
    Option (Value × Shorter characters.length) :=
  match characters with
  | [] => none
  | first :: rest =>
    if first = '[' then
      match levels with
      | 0 => none
      | inner + 1 =>
        readElements (rest.length + 1) (readValue inner) [] rest (Nat.lt_succ_self _)
    else if first = '{' then
      match levels with
      | 0 => none
      | inner + 1 => readBraces (rest.length + 1) (readValue inner) rest (Nat.lt_succ_self _)
    else if first = '"' ∨ first = '\'' then
      match readQuoted first rest with
      | none => none
      | some (content, after) => some (.text content, after)
    else if starts : isWordCharacter first then
      match word? (splitWord (first :: rest)).1 with
      | none => none
      | some value =>
        some (value, ⟨(splitWord (first :: rest)).2, length_of_splitWord first rest starts⟩)
    else none

/-- The greatest number of nested arrays and tables in braces. -/
def maxLevels : Nat := 80

/-! ### Lines -/

/-- Reads a header behind its opening brackets. -/
def readHeader (doubled : Bool) (characters : List Char) :
    Option (Statement × Shorter characters.length) :=
  match readKey (skipBlanks characters) with
  | none => none
  | some (key, ⟨after, shorter⟩) =>
    have bounded : after.length < characters.length :=
      Nat.lt_of_lt_of_le shorter (length_skipBlanks_le characters)
    match same : skipBlanks after with
    | ']' :: rest =>
      have shorterRest : rest.length < characters.length :=
        Nat.lt_trans (length_lt_of_skipBlanks same) bounded
      if doubled then
        match rest with
        | ']' :: more => some (.doubledHeader key, ⟨more, Nat.lt_of_succ_lt shorterRest⟩)
        | _ => none
      else some (.header key, ⟨rest, shorterRest⟩)
    | _ => none

/-- Reads a line that says something, up to where only a comment may follow. -/
def readStatement (characters : List Char) : Option (Statement × Shorter characters.length) :=
  match characters with
  | '[' :: '[' :: rest =>
    match readHeader true rest with
    | none => none
    | some (header, after) => some (header, ⟨after, Nat.lt_add_right 2 after.property⟩)
  | '[' :: rest =>
    match readHeader false rest with
    | none => none
    | some (header, after) => some (header, ⟨after, Nat.lt_add_right 1 after.property⟩)
  | characters =>
    match readPair (readValue maxLevels) characters with
    | none => none
    | some (key, value, rest) => some (.assignment key value, rest)

/-- Reads all lines that say something, with those before in reverse. -/
def readStatements (found : List Statement) (characters : List Char) :
    Option (List Statement) :=
  match same : skipTrivia characters with
  | [] => some found.reverse
  | first :: rest =>
    match readStatement (first :: rest) with
    | none => none
    | some (statement, ⟨after, shorter⟩) =>
      have bounded : after.length < characters.length := by
        have trivia := length_skipTrivia_le characters
        rw [same] at trivia
        exact Nat.lt_of_lt_of_le shorter trivia
      have ended : (skipComment (skipBlanks after)).length ≤ after.length :=
        Nat.le_trans (length_skipComment_le _) (length_skipBlanks_le _)
      match ends : skipComment (skipBlanks after) with
      | [] => some (statement :: found).reverse
      | next =>
        if (afterLineEnd? next).isSome then readStatements (statement :: found) next else none
termination_by characters.length
decreasing_by
  rw [← ends]
  exact Nat.lt_of_le_of_lt ended bounded

/-- The input without the byte order mark that may stand at its start. -/
def skipMark : List Char → List Char
  | '\uFEFF' :: rest => rest
  | characters => characters

/-- Reads a document. -/
def parse (text : String) : Option Members :=
  match readStatements [] (skipMark text.toList) with
  | none => none
  | some statements =>
    match ({} : Tree).addAll statements with
    | none => none
    | some tree => some tree.members

end Phrasebook.Toml
