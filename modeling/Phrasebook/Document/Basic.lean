/-
This file defines documents, the written form of tables, as they stand in a file:
an object keeps its members in their order, repeated keys included, and a value
that has no place in a table keeps only its kind. Whether a document makes a
table is decided elsewhere.
-/

namespace Phrasebook

/-- The kinds of values that no table holds. -/
inductive ForeignKind
  | boolean
  | number
  | null
  | array
deriving DecidableEq, Repr

/-- The name of a kind in messages. -/
def ForeignKind.name : ForeignKind → String
  | .boolean => "boolean"
  | .number => "number"
  | .null => "null"
  | .array => "array"

/-- A document, or a part of one. -/
inductive Document
  /-- A string. -/
  | text (content : String)
  /-- An object, with its members as they are written. -/
  | object (members : List (String × Document))
  /-- Anything else. -/
  | foreign (kind : ForeignKind)

end Phrasebook
