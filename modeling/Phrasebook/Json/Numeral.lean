/-
This file reads JSON numbers. A numeral is read into a significand and a power of
ten. Digits enter the significand while it stays below `2^64`; from the first one
that does not fit on, the digits of that run are dropped, and those before the
point count as powers of ten. Numerals without a point or an exponent whose
digits all fit are integers, except for minus zero and for what is below
`-2^63`; all others are binary64 numbers, and one beyond their range is refused.
-/

import Phrasebook.Json.Scanner
import Phrasebook.Number.Shortest

namespace Phrasebook.Json

open Text (Shorter)

/-! ### Numerals -/

/-- A numeral as it is written. -/
structure Numeral where
  negative : Bool
  significand : Nat
  exponent : Int
  /-- Whether it has neither a point nor an exponent, and no digit was dropped. -/
  whole : Bool

/-- The greatest significand. -/
def maxSignificand : Nat := Nat.pow 2 64 - 1

/-- A run of digits: the significand behind it, and how many digits entered it and how many
were dropped. -/
structure DigitRun (length : Nat) where
  significand : Nat
  kept : Nat
  dropped : Nat
  rest : List Char
  shorter : rest.length ≤ length

/-- Reads digits into a significand. -/
def readDigits (length significand kept dropped : Nat) :
    (characters : List Char) → (within : characters.length ≤ length) → DigitRun length
  | [], within => ⟨significand, kept, dropped, [], within⟩
  | character :: rest, within =>
    if character.isDigit then
      let longer := significand * 10 + (character.toNat - 48)
      if dropped = 0 ∧ longer ≤ maxSignificand then
        readDigits length longer (kept + 1) 0 rest (Nat.le_of_succ_le within)
      else readDigits length significand kept (dropped + 1) rest (Nat.le_of_succ_le within)
    else ⟨significand, kept, dropped, character :: rest, within⟩

/-- An exponent of this size or more makes every numeral zero or out of range. -/
def hugeExponent : Nat := Nat.pow 2 31

/-- Reads the digits of an exponent, ignoring those that a huge one goes on with. -/
def readExponentDigits (length value : Nat) :
    (characters : List Char) → (within : characters.length ≤ length) →
      Nat × { rest : List Char // rest.length ≤ length }
  | [], within => (value, ⟨[], within⟩)
  | character :: rest, within =>
    if character.isDigit then
      let longer := if value < hugeExponent then value * 10 + (character.toNat - 48) else value
      readExponentDigits length longer rest (Nat.le_of_succ_le within)
    else (value, ⟨character :: rest, within⟩)

/-- Reads the digits of an exponent whose sign has been read. -/
def readExponentValue (missing : Fault) : (characters : List Char) →
    Except Fault (Nat × { rest : List Char // rest.length ≤ characters.length })
  | [] => .error missing
  | character :: rest =>
    if character.isDigit then
      .ok (readExponentDigits (rest.length + 1) 0 (character :: rest) (Nat.le_refl _))
    else .error .invalidNumber

/-- Reads an exponent, if one follows: nothing means that there is none. -/
def readExponent (missing : Fault) (characters : List Char) :
    Except Fault (Option Int × { rest : List Char // rest.length ≤ characters.length }) :=
  match characters with
  | [] => .ok (none, ⟨[], Nat.le_refl _⟩)
  | mark :: signed =>
    if mark = 'e' ∨ mark = 'E' then
      match signed with
      | '+' :: digits =>
        match readExponentValue missing digits with
        | .error fault => .error fault
        | .ok (value, ⟨rest, shorter⟩) =>
          .ok (some value, ⟨rest, by simp only [List.length_cons]; omega⟩)
      | '-' :: digits =>
        match readExponentValue missing digits with
        | .error fault => .error fault
        | .ok (value, ⟨rest, shorter⟩) =>
          .ok (some (-value), ⟨rest, by simp only [List.length_cons]; omega⟩)
      | digits =>
        match readExponentValue missing digits with
        | .error fault => .error fault
        | .ok (value, ⟨rest, shorter⟩) =>
          .ok (some value, ⟨rest, by simp only [List.length_cons]; omega⟩)
    else .ok (none, ⟨mark :: signed, Nat.le_refl _⟩)

/-- Reads what may follow the integer part: a fraction, an exponent, both or neither. -/
def readFraction (missing : Fault) (negative : Bool) (significand dropped : Nat)
    (characters : List Char) :
    Except Fault (Numeral × { rest : List Char // rest.length ≤ characters.length }) :=
  match characters with
  | '.' :: digits =>
    let run := readDigits digits.length significand 0 0 digits Nat.le.refl
    if run.kept = 0 ∧ run.dropped = 0 then
      if run.rest.isEmpty then .error missing else .error .invalidNumber
    else
      match readExponent missing run.rest with
      | .error fault => .error fault
      | .ok (exponent, ⟨rest, shorter⟩) =>
        .ok (⟨negative, run.significand, dropped - run.kept + exponent.getD 0, false⟩,
          ⟨rest, by have := run.shorter; simp only [List.length_cons]; omega⟩)
  | characters =>
    match readExponent missing characters with
    | .error fault => .error fault
    | .ok (exponent, rest) =>
      .ok (⟨negative, significand, dropped + exponent.getD 0,
        exponent.isNone && dropped == 0⟩, rest)

/-- Reads a numeral behind its sign. The fault is the one for a digit that is missing where
the input ends. -/
def readUnsigned (missing : Fault) (negative : Bool) : (characters : List Char) →
    Except Fault (Numeral × Shorter characters.length)
  | [] => .error missing
  | first :: rest =>
    if first = '0' then
      match rest with
      | second :: more =>
        if second.isDigit then .error .invalidNumber
        else
          match readFraction missing negative 0 0 (second :: more) with
          | .error fault => .error fault
          | .ok (numeral, ⟨after, shorter⟩) => .ok (numeral, ⟨after, Nat.lt_succ_of_le shorter⟩)
      | [] => .ok (⟨negative, 0, 0, true⟩, ⟨[], Nat.zero_lt_succ _⟩)
    else if first.isDigit then
      let run := readDigits rest.length (first.toNat - 48) 1 0 rest Nat.le.refl
      match readFraction missing negative run.significand run.dropped run.rest with
      | .error fault => .error fault
      | .ok (numeral, ⟨after, shorter⟩) =>
        .ok (numeral, ⟨after, Nat.lt_succ_of_le (Nat.le_trans shorter run.shorter)⟩)
    else .error .invalidNumber

/-- Reads a numeral. -/
def readNumeral (missing : Fault) : (characters : List Char) →
    Except Fault (Numeral × Shorter characters.length)
  | '-' :: rest =>
    match readUnsigned missing true rest with
    | .error fault => .error fault
    | .ok (numeral, ⟨after, shorter⟩) => .ok (numeral, ⟨after, Nat.lt_add_one_of_lt shorter⟩)
  | characters => readUnsigned missing false characters

/-! ### Values -/

/-- The value of a numeral. -/
inductive Quantity
  /-- An integer from zero to `2^64 - 1`. -/
  | natural (value : Nat)
  /-- An integer from `-2^63` to minus one, given by its magnitude. -/
  | negative (magnitude : Nat)
  /-- Any other number. -/
  | decimal (isNegative : Bool) (magnitude : Number.Binary64)
deriving DecidableEq, Repr

/-- The value of a numeral, unless it is out of range. -/
def Numeral.value (numeral : Numeral) : Except Fault Quantity :=
  if numeral.whole ∧ numeral.negative = false then .ok (.natural numeral.significand)
  else if numeral.whole ∧ 0 < numeral.significand ∧ numeral.significand ≤ Nat.pow 2 63 then
    .ok (.negative numeral.significand)
  else
    match Number.Binary64.ofDecimal numeral.significand numeral.exponent with
    | some magnitude => .ok (.decimal numeral.negative magnitude)
    | none => .error .numberOutOfRange

/-- Reads a number. -/
def readNumber (characters : List Char) : Except Fault (Quantity × Shorter characters.length) :=
  match readNumeral .endInValue characters with
  | .error fault => .error fault
  | .ok (numeral, rest) =>
    match numeral.value with
    | .error fault => .error fault
    | .ok number => .ok (number, rest)

/-- Skips a number. Its size does not matter here, and a digit that is missing where the
input ends is missing like any other. -/
def skipNumber (characters : List Char) : Except Fault (Shorter characters.length) :=
  match readNumeral .invalidNumber characters with
  | .error fault => .error fault
  | .ok (_, rest) => .ok rest

end Phrasebook.Json
