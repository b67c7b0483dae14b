/-
This file reads and writes the options of loading as JSON. They are written as an
object with all fields, and read from an object, in which fields may be missing
and unknown ones are skipped, or from an array with the fields in their order, of
which the last ones may be missing.
-/

import Phrasebook.Json.Compact
import Phrasebook.Json.Decoding
import Phrasebook.Json.Structure
import Phrasebook.Load.Options

namespace Phrasebook

open Json
open Text (Shorter)

/-! ### Fields -/

/-- A field of the options. -/
inductive LoadField
  | maxDocumentBytes
  | maxNestingDepth
  | malformedReference
deriving DecidableEq, Repr

/-- The name of a field. -/
def LoadField.name : LoadField → String
  | .maxDocumentBytes => "max_document_bytes"
  | .maxNestingDepth => "max_nesting_depth"
  | .malformedReference => "malformed_reference"

/-- All fields, in their order. -/
def LoadField.all : List LoadField :=
  [.maxDocumentBytes, .maxNestingDepth, .malformedReference]

/-- The field with a name. -/
def LoadField.ofName? (name : String) : Option LoadField :=
  LoadField.all.find? fun field => field.name == name

/-! ### The policy -/

namespace MalformedReferencePolicy

/-- The policy with a name. -/
def decodeName (name : String) : Except DecodeError MalformedReferencePolicy :=
  match ofName? name with
  | some policy => .ok policy
  | none => .error (.unknownName name [reject.name, literal.name])

/-- Reads a policy behind the opening quote of the only key of an object. The key has the
name of the policy and its value says nothing. -/
def decodeMember (characters : List Char) :
    Except DecodeError (MalformedReferencePolicy × Shorter (characters.length + 1)) :=
  match readText characters with
  | .error fault => .error (.notJson fault)
  | .ok (name, ⟨named, shorterNamed⟩) =>
    match decodeName name with
    | .error error => .error error
    | .ok policy =>
      match readColon named with
      | .error fault => .error (.notJson fault)
      | .ok ⟨valued, shorterValued⟩ =>
        match decodeNothing valued with
        | .error error => .error error
        | .ok ⟨after, shorterAfter⟩ =>
          match same : skipSpaces after with
          | '}' :: rest =>
            .ok (policy, ⟨rest, Nat.lt_trans (length_lt_of_skipSpaces same)
              (Nat.lt_trans shorterAfter (Nat.lt_trans shorterValued shorterNamed))⟩)
          | [] => .error (.notJson .endInObject)
          | _ => .error (.notJson .expectedValue)

/-- Reads a policy behind the opening brace of an object. -/
def decodeObject (characters : List Char) :
    Except DecodeError (MalformedReferencePolicy × Shorter characters.length) :=
  match same : skipSpaces characters with
  | [] => .error (.notJson .endInObject)
  | '"' :: rest =>
    match decodeMember rest with
    | .error error => .error error
    | .ok (policy, ⟨after, shorter⟩) =>
      .ok (policy, ⟨after, Nat.lt_of_le_of_lt (Nat.le_of_lt_succ shorter)
        (length_lt_of_skipSpaces same)⟩)
  | '}' :: _ => .error (.notJson .expectedValue)
  | _ => .error (.notJson .keyMustBeString)

/-- Reads a policy: its name, or an object whose only member has its name. -/
def decode (characters : List Char) :
    Except DecodeError (MalformedReferencePolicy × Shorter characters.length) :=
  match same : skipSpaces characters with
  | [] => .error (.notJson .endInValue)
  | first :: rest =>
    have shorter : rest.length < characters.length := length_lt_of_skipSpaces same
    if first = '"' then
      match readText rest with
      | .error fault => .error (.notJson fault)
      | .ok (name, after) =>
        match decodeName name with
        | .error error => .error error
        | .ok policy =>
          .ok (policy, ⟨after, Nat.lt_of_le_of_lt (Nat.le_of_lt_succ after.property) shorter⟩)
    else if first = '{' then
      match decodeObject rest with
      | .error error => .error error
      | .ok (policy, after) => .ok (policy, ⟨after, Nat.lt_trans after.property shorter⟩)
    else .error (.notJson .expectedValue)

end MalformedReferencePolicy

/-! ### Options -/

namespace LoadOptions

/-- Reads the value of a field. -/
def decodeField (options : LoadOptions) (field : LoadField) (characters : List Char) :
    Except DecodeError (LoadOptions × Shorter characters.length) :=
  match field with
  | .maxDocumentBytes =>
    match decodeSize characters with
    | .error error => .error error
    | .ok (value, rest) => .ok ({ options with maxDocumentBytes := value }, rest)
  | .maxNestingDepth =>
    match decodeSize characters with
    | .error error => .error error
    | .ok (value, rest) => .ok ({ options with maxNestingDepth := value }, rest)
  | .malformedReference =>
    match MalformedReferencePolicy.decode characters with
    | .error error => .error error
    | .ok (policy, rest) => .ok ({ options with malformedReference := policy }, rest)

/-- Reads the end of an array that has all its elements. -/
def readListEnd (characters : List Char) : Except Fault (List Char) :=
  match skipSpaces characters with
  | [] => .error .endInList
  | ']' :: rest => .ok rest
  | ',' :: rest =>
    match skipSpaces rest with
    | ']' :: _ => .error .trailingComma
    | _ => .error .trailingCharacters
  | _ => .error .trailingCharacters

/-- Reads these fields as the elements of an array, up to and with its end. -/
def decodeElements (first : Bool) (options : LoadOptions) :
    (fields : List LoadField) → (characters : List Char) →
      Except DecodeError (LoadOptions × List Char)
  | [], characters =>
    match readListEnd characters with
    | .error fault => .error (.notJson fault)
    | .ok rest => .ok (options, rest)
  | field :: fields, characters =>
    match readElementStart first characters with
    | .error fault => .error (.notJson fault)
    | .ok (false, ⟨rest, _⟩) => .ok (options, rest)
    | .ok (true, ⟨element, _⟩) =>
      match options.decodeField field element with
      | .error error => .error error
      | .ok (changed, ⟨rest, _⟩) => decodeElements false changed fields rest

/-- Reads the value of a member whose name has been read, with the fields that have been
set. -/
def decodeMember (options : LoadOptions) (set : List LoadField) (name : String)
    (characters : List Char) :
    Except DecodeError (LoadOptions × List LoadField × Shorter characters.length) :=
  let field := LoadField.ofName? name
  if field.any set.contains then .error (.repeatedField name)
  else
    match readColon characters with
    | .error fault => .error (.notJson fault)
    | .ok ⟨valued, shorterValued⟩ =>
      match field with
      | none =>
        match skipValue valued with
        | .error fault => .error (.notJson fault)
        | .ok rest => .ok (options, set, ⟨rest, Nat.lt_trans rest.property shorterValued⟩)
      | some field =>
        match options.decodeField field valued with
        | .error error => .error error
        | .ok (changed, rest) =>
          .ok (changed, field :: set, ⟨rest, Nat.lt_trans rest.property shorterValued⟩)

set_option linter.unusedVariables false in
/-- Reads the members of an object, up to and with its end, with the fields that have been
set. -/
def decodeMembers (first : Bool) (options : LoadOptions) (set : List LoadField)
    (characters : List Char) : Except DecodeError (LoadOptions × List Char) :=
  match readKey first characters with
  | .error fault => .error (.notJson fault)
  | .ok (none, ⟨rest, _⟩) => .ok (options, rest)
  | .ok (some name, ⟨named, shorterNamed⟩) =>
    match options.decodeMember set name named with
    | .error error => .error error
    | .ok (changed, grown, ⟨rest, shorter⟩) =>
      have lessThanHere : rest.length < characters.length := Nat.lt_trans shorter shorterNamed
      decodeMembers false changed grown rest
termination_by characters.length
decreasing_by exact lessThanHere

/-- Reads options and gives what follows them. -/
def decode (characters : List Char) : Except DecodeError (LoadOptions × List Char) :=
  match skipSpaces characters with
  | [] => .error (.notJson .endInValue)
  | first :: rest =>
    if first = '[' then decodeElements true {} LoadField.all rest
    else if first = '{' then decodeMembers true {} [] rest
    else .error (mismatch .loadOptions first rest)

/-- Reads options. -/
def ofJson (text : String) : Except DecodeError LoadOptions :=
  match decode text.toList with
  | .error error => .error error
  | .ok (options, rest) =>
    match readEnd rest with
    | .error fault => .error (.notJson fault)
    | .ok () => .ok options

/-- The options as JSON. -/
def toJson (options : LoadOptions) : String :=
  writeObject
    [(LoadField.maxDocumentBytes.name, writeNatural options.maxDocumentBytes),
      (LoadField.maxNestingDepth.name, writeNatural options.maxNestingDepth),
      (LoadField.malformedReference.name, quote options.malformedReference.name)]

end LoadOptions

end Phrasebook
