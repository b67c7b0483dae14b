/-
This file says what happens when a JSON document is read as a value of a certain
kind and something else stands there. The message names what was found, with its
content where that is short, and what was expected. To name it, it has to be read,
so a fault in it comes first.
-/

import Phrasebook.Json.Numeral
import Phrasebook.KeyPath
import Phrasebook.Text.Exposed

namespace Phrasebook.Json

/-! ### What was found and what was expected -/

/-- What stands in a place. -/
inductive Found
  | null
  | boolean (value : Bool)
  | number (value : Quantity)
  | text (content : String)
  | sequence
  | map
deriving DecidableEq, Repr

/-- What was found, as messages name it. -/
def Found.description : Found → String
  | .null => "null"
  | .boolean value => "boolean `" ++ (if value then "true" else "false") ++ "`"
  | .number (.natural value) => "integer `" ++ toString value ++ "`"
  | .number (.negative magnitude) => "integer `-" ++ toString magnitude ++ "`"
  | .number (.decimal isNegative magnitude) =>
    "floating point `" ++ (if isNegative then "-" else "") ++ magnitude.text ++ "`"
  | .text content => "string " ++ Text.expose content
  | .sequence => "sequence"
  | .map => "map"

/-- What belongs in a place. -/
inductive Expected
  | text
  | size
  | loadOptions
  | nothing
deriving DecidableEq, Repr

/-- What was expected, as messages name it. -/
def Expected.description : Expected → String
  | .text => "a string"
  | .size => "usize"
  | .loadOptions => "struct LoadOptions"
  | .nothing => "unit"

/-! ### Errors -/

/-- Why a text is not the JSON of a value of a certain kind. -/
inductive DecodeError
  /-- It is not JSON. -/
  | notJson (fault : Fault)
  /-- A value of another kind stands in a place. -/
  | wrongKind (found : Found) (expected : Expected)
  /-- A value of the right kind is out of range. -/
  | wrongValue (found : Found) (expected : Expected)
  /-- A name is none of those that are known. -/
  | unknownName (name : String) (known : List String)
  /-- A field stands twice in an object. -/
  | repeatedField (name : String)
  /-- A text is no key path. -/
  | badKeyPath (fault : KeyPathError)
deriving DecidableEq, Repr

/-- A name as messages set it off. -/
def tick (name : String) : String :=
  "`" ++ name ++ "`"

/-- The sentence that tells a person about the error. -/
def DecodeError.message : DecodeError → String
  | .notJson fault => fault.message
  | .wrongKind found expected =>
    "invalid type: " ++ found.description ++ ", expected " ++ expected.description
  | .wrongValue found expected =>
    "invalid value: " ++ found.description ++ ", expected " ++ expected.description
  | .unknownName name known =>
    "unknown variant " ++ tick name ++ ", expected " ++ " or ".intercalate (known.map tick)
  | .repeatedField name => "duplicate field " ++ tick name
  | .badKeyPath fault => fault.message

/-! ### Reading what was found -/

/-- Reads a word behind its first letter and gives what it stands for. -/
def findWord (letters rest : List Char) (found : Found) : Except Fault Found :=
  match readWord letters rest with
  | .error fault => .error fault
  | .ok _ => .ok found

/-- Reads the value that starts with a character, as far as it is named in messages. -/
def findValue (first : Char) (rest : List Char) : Except Fault Found :=
  if first = 'n' then findWord "ull".toList rest .null
  else if first = 't' then findWord "rue".toList rest (.boolean true)
  else if first = 'f' then findWord "alse".toList rest (.boolean false)
  else if first = '-' ∨ first.isDigit then
    match readNumber (first :: rest) with
    | .error fault => .error fault
    | .ok (number, _) => .ok (.number number)
  else if first = '"' then
    match readText rest with
    | .error fault => .error fault
    | .ok (content, _) => .ok (.text content)
  else if first = '[' then .ok .sequence
  else if first = '{' then .ok .map
  else .error .expectedValue

/-- The error that a value of another kind starts here. -/
def mismatch (expected : Expected) (first : Char) (rest : List Char) : DecodeError :=
  match findValue first rest with
  | .error fault => .notJson fault
  | .ok found => .wrongKind found expected

end Phrasebook.Json
