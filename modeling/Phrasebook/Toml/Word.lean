/-
This file reads the values that are single words: truth values, numbers, dates
and times. Digits may be grouped with underscores, each of which has a digit on
either side. A word that starts like a grouped integer is taken for one, and may
turn out to have no value. Dates have to be dates of the calendar, and times have
to be times of a day, a leap second included.
-/

import Phrasebook.Text.Hex
import Phrasebook.Toml.Value

namespace Phrasebook.Toml

/-! ### Digits -/

/-- Whether every underscore stands between two digits, the character before the first one
given here being a digit or not. -/
def isGroupedBehind (isDigit : Char → Bool) : (afterDigit : Bool) → List Char → Bool
  | _, [] => true
  | _, ['_'] => false
  | afterDigit, '_' :: next :: rest =>
    afterDigit && isDigit next && isGroupedBehind isDigit true rest
  | _, character :: rest => isGroupedBehind isDigit (isDigit character) rest

/-- Whether every underscore stands between two digits. Nothing is asked of the other
characters. -/
def isGrouped (isDigit : Char → Bool) (characters : List Char) : Bool :=
  isGroupedBehind isDigit false characters

/-- The characters without the underscores. -/
def ungrouped (characters : List Char) : List Char :=
  characters.filter fun character => character != '_'

/-- The number that digits make in a base. -/
def valueOf (base : Nat) (digits : List Char) : Nat :=
  digits.foldl (fun value digit => value * base + (Text.hexValue? digit).getD 0) 0

/-- Whether a character is a digit in a base up to sixteen. -/
def isDigitIn (base : Nat) (character : Char) : Bool :=
  match Text.hexValue? character with
  | some value => value < base
  | none => false

/-- Whether a minus sign stands in front, and what follows the sign. -/
def splitSign : List Char → Bool × List Char
  | '-' :: rest => (true, rest)
  | '+' :: rest => (false, rest)
  | characters => (false, characters)

/-- Whether a zero stands in front of other digits. -/
def hasNeedlessZero (digits : List Char) : Bool :=
  digits.head? == some '0' && digits.length != 1

/-! ### Integers -/

/-- Reads the digits of an integer in a base. Without digits it has no value. -/
def integerIn? (base : Nat) (digits : List Char) : Option Value :=
  if !isGrouped (isDigitIn base) digits || !(ungrouped digits).all (isDigitIn base) then none
  else if digits.isEmpty then some .unreadInteger
  else some (.integer (valueOf base (ungrouped digits)))

/-- The decimal integer that characters with an optional sign make. -/
def decimalInteger (characters : List Char) : Value :=
  let (negative, digits) := splitSign characters
  if digits.isEmpty || !digits.all Char.isDigit then .unreadInteger
  else
    let magnitude : Int := valueOf 10 digits
    .integer (if negative then -magnitude else magnitude)

/-- Reads a decimal integer, of which only the underscores and a needless zero in front are
judged. -/
def integer? (word : List Char) : Option Value :=
  let unsigned := (splitSign word).2
  if unsigned.isEmpty || hasNeedlessZero unsigned then none
  else if isGrouped (isDigitIn 16) word then some (decimalInteger (ungrouped word))
  else none

/-! ### Fractions -/

/-- The number of decimal digits of the greatest binary64 number. -/
def greatestOrder : Nat := 309

/-- The least natural number that no binary64 number is near to: it lies half way between
the greatest one and the next power of two. -/
def leastOutOfRange : Nat := Nat.pow 2 1024 - Nat.pow 2 970

/-- Whether a binary64 number is near to the one with these digits behind its point, times
ten to the power of the exponent. -/
def isNearBinary64 (digits : List Char) (exponent : Int) : Bool :=
  let significant := digits.dropWhile fun digit => digit == '0'
  let order := exponent - (digits.length - significant.length : Nat)
  if significant.isEmpty then true
  else if order < greatestOrder then true
  else if order = greatestOrder then
    let leading := significant.take greatestOrder
    valueOf 10 leading * Nat.pow 10 (greatestOrder - leading.length) < leastOutOfRange
  else false

example : isNearBinary64 "18".toList 309 = false := by decide +kernel

/-- The value of an exponent with its mark, of which there may be none. -/
def exponent? : List Char → Option Int
  | [] => some 0
  | mark :: rest =>
    let (negative, digits) := splitSign rest
    if (mark == 'e' || mark == 'E') && !digits.isEmpty && digits.all Char.isDigit then
      let magnitude : Int := valueOf 10 digits
      some (if negative then -magnitude else magnitude)
    else none

/-- Reads a fraction without underscores and without a sign, whose whole part is not empty. -/
def decimal? (whole rest : List Char) : Option Value :=
  match rest with
  | '.' :: behind =>
    let places := behind.takeWhile Char.isDigit
    if places.isEmpty then none
    else
      (exponent? (behind.dropWhile Char.isDigit)).map fun exponent =>
        .decimal (isNearBinary64 (whole ++ places) (exponent + whole.length))
  | marked =>
    (exponent? marked).map fun exponent =>
      .decimal (isNearBinary64 whole (exponent + whole.length))

/-- Reads a number with a fraction, an exponent or both. -/
def fraction? (word : List Char) : Option Value :=
  let plain := ungrouped (splitSign word).2
  let whole := plain.takeWhile Char.isDigit
  if !isGrouped Char.isDigit word || whole.isEmpty || hasNeedlessZero whole then none
  else decimal? whole (plain.dropWhile Char.isDigit)

/-- Whether the word is an infinity or is no number. -/
def isSpecial (word : List Char) : Bool :=
  let unsigned := (splitSign word).2
  unsigned == "inf".toList || unsigned == "nan".toList

/-! ### Dates and times -/

/-- Reads this many digits. -/
def digits? : (count value : Nat) → List Char → Option (Nat × List Char)
  | 0, value, rest => some (value, rest)
  | count + 1, value, character :: rest =>
    if character.isDigit then digits? count (value * 10 + (character.toNat - 48)) rest else none
  | _ + 1, _, [] => none

/-- Whether the year has a leap day. -/
def isLeapYear (year : Nat) : Bool :=
  year % 4 == 0 && (year % 100 != 0 || year % 400 == 0)

/-- The number of days of a month. -/
def daysIn (year month : Nat) : Nat :=
  if month = 2 then if isLeapYear year then 29 else 28
  else if month = 4 ∨ month = 6 ∨ month = 9 ∨ month = 11 then 30
  else 31

/-- What follows a date. -/
def afterDate? (characters : List Char) : Option (List Char) :=
  match digits? 4 0 characters with
  | some (year, '-' :: afterYear) =>
    match digits? 2 0 afterYear with
    | some (month, '-' :: afterMonth) =>
      match digits? 2 0 afterMonth with
      | some (day, rest) =>
        if 1 ≤ month ∧ month ≤ 12 ∧ 1 ≤ day ∧ day ≤ daysIn year month then some rest else none
      | none => none
    | _ => none
  | _ => none

/-- What follows the fraction of a second, if there is one. -/
def afterSecondFraction? : List Char → Option (List Char)
  | '.' :: digit :: rest =>
    if digit.isDigit then some (rest.dropWhile Char.isDigit) else none
  | ['.'] => none
  | rest => some rest

/-- What follows a time. -/
def afterTime? (characters : List Char) : Option (List Char) :=
  match digits? 2 0 characters with
  | some (hour, ':' :: afterHour) =>
    match digits? 2 0 afterHour with
    | some (minute, ':' :: afterMinute) =>
      match digits? 2 0 afterMinute with
      | some (second, rest) =>
        if hour ≤ 23 ∧ minute ≤ 59 ∧ second ≤ 60 then afterSecondFraction? rest else none
      | none => none
    | _ => none
  | _ => none

/-- Whether the characters are the distance from universal time. -/
def isOffset : List Char → Bool
  | ['Z'] => true
  | ['z'] => true
  | sign :: distance =>
    (sign == '+' || sign == '-') &&
      match digits? 2 0 distance with
      | some (hours, ':' :: rest) =>
        match digits? 2 0 rest with
        | some (minutes, []) => hours ≤ 23 && minutes ≤ 59
        | _ => false
      | _ => false
  | [] => false

/-- Whether a character divides a date from a time. -/
def isDateMark (character : Char) : Bool :=
  character == 'T' || character == 't' || character == ' '

/-- Whether the word is a date, a time or both. -/
def isMoment (word : List Char) : Bool :=
  match afterDate? word with
  | some [] => true
  | some (mark :: rest) =>
    isDateMark mark &&
      match afterTime? rest with
      | some offset => offset.isEmpty || isOffset offset
      | none => false
  | none => afterTime? word == some []

/-! ### Words -/

/-- The characters that end a word. -/
def wordEnds : List Char :=
  ['=', ',', '[', ']', '{', '}', '#', ' ', '\t', '\r', '\n']

/-- Whether a character can stand in a word. -/
def isWordCharacter (character : Char) : Bool :=
  !wordEnds.contains character

/-- Whether the characters hold a mark of a fraction or of an exponent. -/
def hasFractionMark (characters : List Char) : Bool :=
  characters.any fun character => character == '.' || character == 'e' || character == 'E'

/-- Reads a number without a base, a date or a time. What follows the first digits tells
which it is. -/
def numberOrMoment? (word : List Char) : Option Value :=
  match (splitSign word).2.dropWhile Char.isDigit with
  | [] => integer? word
  | mark :: rest =>
    if mark = '-' ∨ mark = ':' then if isMoment word then some .moment else none
    else if hasFractionMark (mark :: rest) then fraction? word
    else if mark = '_' then integer? word
    else none

/-- The value of a word. -/
def word? (word : List Char) : Option Value :=
  if word = "true".toList then some (.boolean true)
  else if word = "false".toList then some (.boolean false)
  else if isSpecial word then some (.decimal true)
  else
    match word with
    | '0' :: 'x' :: digits => integerIn? 16 digits
    | '0' :: 'o' :: digits => integerIn? 8 digits
    | '0' :: 'b' :: digits => integerIn? 2 digits
    | _ => numberOrMoment? word

example : word? "1_2x".toList = some .unreadInteger := rfl

/-- Where a date is followed by a blank and a digit, the blank belongs to the word. -/
def goesOn (word rest : List Char) : Bool :=
  match rest with
  | ' ' :: digit :: _ => digit.isDigit && afterDate? word == some []
  | _ => false

/-- The word at the start of the input and what follows it. -/
def splitWord (characters : List Char) : List Char × List Char :=
  let word := characters.takeWhile isWordCharacter
  let rest := characters.dropWhile isWordCharacter
  if goesOn word rest then
    (word ++ ' ' :: rest.tail.takeWhile isWordCharacter, rest.tail.dropWhile isWordCharacter)
  else (word, rest)

end Phrasebook.Toml
