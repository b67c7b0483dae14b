/-
This file lists what can keep a document from becoming a table. An error is either
a key that an object repeats or a malformation, which has a cause and, where the
cause lies inside the tree, the path of the place.
-/

import Phrasebook.Document.Basic
import Phrasebook.Json.Fault
import Phrasebook.Template.Reader

namespace Phrasebook

/-! ### Malformations -/

/-- Why a document is malformed. -/
inductive Malformation
  /-- It has more bytes than allowed. -/
  | oversized (size limit : Nat)
  /-- Its bytes are not UTF-8. -/
  | notUtf8
  /-- Its text is not JSON. -/
  | notJson (fault : Json.Fault)
  /-- It is a single string. -/
  | rootIsText
  /-- It is a value that has no place in a table. -/
  | rootIsForeign (kind : ForeignKind)
  /-- An object lies deeper than allowed. -/
  | nestedTooDeep (limit : Nat)
  /-- A key cannot stand in a path. -/
  | invalidKey (key : String) (fault : KeyPathError)
  /-- A string is not a template. -/
  | invalidTemplate (fault : TemplateError)
  /-- A value has no place in a table. -/
  | foreignLeaf (kind : ForeignKind)
deriving DecidableEq, Repr

/-- The part of the sentence that gives the cause. -/
def Malformation.reason : Malformation → String
  | .oversized size limit =>
    "document is " ++ toString size ++ " bytes, limit is " ++ toString limit
  | .notUtf8 => "document must be utf-8"
  | .notJson fault => fault.message
  | .rootIsText => "document root must be an object, found string"
  | .rootIsForeign kind => "document root must be an object, found " ++ kind.name
  | .nestedTooDeep limit => "nesting exceeds depth limit of " ++ toString limit
  | .invalidKey key fault => "invalid key `" ++ key ++ "`: " ++ fault.message
  | .invalidTemplate fault => fault.message
  | .foreignLeaf kind => "leaf values must be strings, found " ++ kind.name

/-! ### Errors -/

/-- Why a document makes no table. -/
inductive LoadError
  /-- The document is malformed, at a path if the place has one. -/
  | malformed (path : Option KeyPath) (cause : Malformation)
  /-- The key that ends this path stands twice in its object. -/
  | duplicateKey (path : KeyPath)
deriving DecidableEq

/-- The sentence that tells a person about the error. -/
def LoadError.message : LoadError → String
  | .malformed none cause => "malformed resource: " ++ cause.reason
  | .malformed (some path) cause =>
    "malformed resource at `" ++ path.dotted ++ "`: " ++ cause.reason
  | .duplicateKey path => "duplicate key `" ++ path.dotted ++ "`"

end Phrasebook
