/-
This file defines the options of loading a table: how large and how deeply nested
a document may be, and what becomes of malformed references in its strings.
-/

import Phrasebook.Template.Reader

namespace Phrasebook

/-- The options of loading. -/
structure LoadOptions where
  /-- The greatest size of a document in bytes. -/
  maxDocumentBytes : Nat := 4 * 1024 * 1024
  /-- The greatest number of objects around an entry, the root being one of them. -/
  maxNestingDepth : Nat := 32
  /-- What becomes of a malformed reference. -/
  malformedReference : MalformedReferencePolicy := .reject
deriving DecidableEq, Repr

end Phrasebook
