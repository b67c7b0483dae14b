/-
This file writes JSON without blanks: numbers in decimal digits, and lists and
objects from parts that are written already, with the members in the given order.
-/

import Phrasebook.Json.Quoted

namespace Phrasebook.Json

/-- A natural number in decimal digits. -/
def writeNatural (value : Nat) : String :=
  String.ofList (Nat.toDigits 10 value)

/-- An array of written elements. -/
def writeList (elements : List String) : String :=
  "[" ++ ",".intercalate elements ++ "]"

/-- A member with a written value. -/
def writeMember (member : String × String) : String :=
  quote member.1 ++ ":" ++ member.2

/-- An object of members with written values. -/
def writeObject (members : List (String × String)) : String :=
  "\x7b" ++ ",".intercalate (members.map writeMember) ++ "\x7d"

end Phrasebook.Json
