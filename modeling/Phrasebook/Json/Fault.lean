/-
This file lists what can be wrong with a JSON document. Each cause has one
sentence. A document is read from left to right and the first fault met is the
one reported, so two faults in one document never compete.
-/

namespace Phrasebook.Json

/-- Why a text is not a JSON document. -/
inductive Fault
  /-- The input ends where a value is due or is not complete. -/
  | endInValue
  /-- The input ends inside an array. -/
  | endInList
  /-- The input ends inside an object. -/
  | endInObject
  /-- The input ends inside a string. -/
  | endInString
  /-- A key is not followed by a colon. -/
  | expectedColon
  /-- An array element is followed by something else than a comma or the end of the array. -/
  | expectedListCommaOrEnd
  /-- A member is followed by something else than a comma or the end of the object. -/
  | expectedObjectCommaOrEnd
  /-- A word starts like `true`, `false` or `null` and goes on differently. -/
  | expectedWord
  /-- No value starts with this character. -/
  | expectedValue
  /-- A backslash is followed by something that is no escape. -/
  | invalidEscape
  /-- A number has a leading zero or lacks a digit. -/
  | invalidNumber
  /-- The magnitude of a number is beyond every binary64 number. -/
  | numberOutOfRange
  /-- A control character stands in a string. -/
  | controlCharacter
  /-- A key is not a string. -/
  | keyMustBeString
  /-- A surrogate escape has no partner where one must stand. -/
  | loneSurrogate
  /-- The first half of a surrogate pair is not followed by an escape. -/
  | unexpectedEndOfEscape
  /-- A comma is followed by the end of its object or array. -/
  | trailingComma
  /-- Something follows the document. -/
  | trailingCharacters
  /-- The objects and arrays are nested too deeply. -/
  | recursionLimit
deriving DecidableEq, Repr

/-- The sentence that tells a person about the fault. -/
def Fault.message : Fault → String
  | .endInValue => "EOF while parsing a value"
  | .endInList => "EOF while parsing a list"
  | .endInObject => "EOF while parsing an object"
  | .endInString => "EOF while parsing a string"
  | .expectedColon => "expected `:`"
  | .expectedListCommaOrEnd => "expected `,` or `]`"
  | .expectedObjectCommaOrEnd => "expected `,` or `\x7d`"
  | .expectedWord => "expected ident"
  | .expectedValue => "expected value"
  | .invalidEscape => "invalid escape"
  | .invalidNumber => "invalid number"
  | .numberOutOfRange => "number out of range"
  | .controlCharacter =>
    "control character (\\u0000-\\u001F) found while parsing a string"
  | .keyMustBeString => "key must be a string"
  | .loneSurrogate => "lone leading surrogate in hex escape"
  | .unexpectedEndOfEscape => "unexpected end of hex escape"
  | .trailingComma => "trailing comma"
  | .trailingCharacters => "trailing characters"
  | .recursionLimit => "recursion limit exceeded"

end Phrasebook.Json
