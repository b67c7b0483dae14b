/-
This file defines configurations: which documents make a catalog, the limits of
resolution, the options of loading, and where audit records go. Everything has a
default, so the empty configuration is one. Relative paths in a configuration are
meant from the directory of its file.
-/

import Phrasebook.File.Path
import Phrasebook.Load.Options
import Phrasebook.Resolve.Limits
import Phrasebook.Text.Blank

namespace Phrasebook

/-! ### The sections -/

/-- The documents of a catalog. -/
structure SourcesConfig where
  /-- The path of the primary document. -/
  primary : String := "strings.en.json"
  /-- The paths of the shared documents, in the order of lookup. -/
  shared : List String := []
deriving DecidableEq, Repr

/-- How documents are loaded. -/
structure LoadConfig where
  options : LoadOptions := {}
  /-- Whether all references are followed once before the catalog is used. -/
  validateReferences : Bool := true
deriving DecidableEq, Repr

/-- Where audit records go. -/
structure AuditConfig where
  enabled : Bool := true
  /-- The path of the file of records. Without one they go to standard error. -/
  path : Option String := none
deriving DecidableEq, Repr

/-- A configuration. -/
structure Config where
  sources : SourcesConfig := {}
  limits : Limits := {}
  load : LoadConfig := {}
  audit : AuditConfig := {}
  /-- The directory from which relative paths are meant, if it is not the working directory. -/
  sourceDirectory : Option FilePath := none
deriving DecidableEq, Repr

/-! ### Paths -/

/-- Where audit records go in the end. -/
inductive AuditDestination
  | disabled
  | standardError
  | file (path : FilePath)
deriving DecidableEq, Repr

namespace Config

/-- The path that a text in the configuration means. Blanks around it are ignored. -/
def resolveSource (config : Config) (source : String) : FilePath :=
  let path : FilePath := ⟨Text.trim source⟩
  match config.sourceDirectory with
  | none => path
  | some directory => directory.join path

/-- Where audit records go. -/
def auditDestination (config : Config) : AuditDestination :=
  if config.audit.enabled then
    match config.audit.path with
    | none => .standardError
    | some path => .file (config.resolveSource path)
  else .disabled

/-- The text of a configuration file with every setting. -/
def exampleText : String :=
  "\n".intercalate
    ["[sources]",
      "primary = \"strings.en.json\"",
      "shared = [\"common.en.json\"]",
      "",
      "[resolver]",
      "max_redirect_depth = 16",
      "max_expansions = 1024",
      "max_output_bytes = 65536",
      "",
      "[load]",
      "max_document_bytes = 4194304",
      "max_nesting_depth = 32",
      "malformed_reference = \"reject\"",
      "validate_references = true",
      "",
      "[audit]",
      "enabled = true",
      "# path = \"hub-strings-audit.log\"",
      ""]

end Config

end Phrasebook
