/-
This file lists what can be wrong with a configuration: its file cannot be read,
its text is not TOML with the right kinds of values, or a value is not allowed.
-/

import Phrasebook.File.System

namespace Phrasebook

/-! ### Values that are not allowed -/

/-- A setting that holds a path. -/
inductive PathSetting
  | primary
  /-- The shared document at an index. -/
  | shared (index : Nat)
  | audit
deriving DecidableEq, Repr

/-- The name of a setting in messages. -/
def PathSetting.name : PathSetting → String
  | .primary => "sources.primary"
  | .shared index => "sources.shared[" ++ toString index ++ "]"
  | .audit => "audit.path"

/-- A setting that holds a number within bounds. -/
inductive NumberSetting
  | maxRedirectDepth
  | maxExpansions
  | maxOutputBytes
  | maxDocumentBytes
  | maxNestingDepth
deriving DecidableEq, Repr

/-- The name of a setting in messages. -/
def NumberSetting.name : NumberSetting → String
  | .maxRedirectDepth => "resolver.max_redirect_depth"
  | .maxExpansions => "resolver.max_expansions"
  | .maxOutputBytes => "resolver.max_output_bytes"
  | .maxDocumentBytes => "load.max_document_bytes"
  | .maxNestingDepth => "load.max_nesting_depth"

/-- What is not allowed about a configuration. -/
inductive ConfigFault
  /-- The path of the configuration file is too long. -/
  | pathTooLong
  /-- A component of the path of the configuration file is too long. -/
  | pathComponentTooLong
  /-- The configuration file is too large. -/
  | fileTooLarge
  /-- The configuration file is not UTF-8. -/
  | notUtf8
  /-- A path is empty. -/
  | emptyPath (setting : PathSetting)
  /-- A path is too long. -/
  | longPath (setting : PathSetting)
  /-- A component of a path is too long. -/
  | longComponent (setting : PathSetting)
  /-- There are too many shared documents. -/
  | tooManyShared (limit : Nat)
  /-- The shared document at an index is the primary one. -/
  | duplicatesPrimary (index : Nat)
  /-- The shared document at an index is the one at an earlier index. -/
  | duplicatesShared (index first : Nat)
  /-- A number is zero or too large. -/
  | outOfRange (setting : NumberSetting)
deriving DecidableEq, Repr

/-- The part of the sentence that says what is not allowed. -/
def ConfigFault.reason : ConfigFault → String
  | .pathTooLong => "config path exceeds max length"
  | .pathComponentTooLong => "config path component too long"
  | .fileTooLarge => "config file exceeds size limit"
  | .notUtf8 => "config file must be utf-8"
  | .emptyPath setting => setting.name ++ " must be non-empty"
  | .longPath setting => setting.name ++ " exceeds max length"
  | .longComponent setting => setting.name ++ " path component too long"
  | .tooManyShared limit => "sources.shared exceeds " ++ toString limit ++ " entries"
  | .duplicatesPrimary index =>
    (PathSetting.shared index).name ++ " duplicates " ++ PathSetting.primary.name
  | .duplicatesShared index first =>
    (PathSetting.shared index).name ++ " duplicates " ++ (PathSetting.shared first).name
  | .outOfRange setting => setting.name ++ " out of range"

/-! ### Errors -/

/-- Why there is no usable configuration. -/
inductive ConfigError
  /-- The configuration file at a path cannot be read. -/
  | unreadable (path : FilePath) (fault : FileFault)
  /-- The file of audit records cannot be opened. -/
  | auditUnavailable (fault : FileFault)
  /-- The text is not TOML, or a value is of the wrong kind. -/
  | parse
  /-- A value is not allowed. -/
  | invalid (fault : ConfigFault)
deriving DecidableEq, Repr

/-- The sentence that tells a person about the error. -/
def ConfigError.message : ConfigError → String
  | .unreadable path fault => "config io error: " ++ path.text ++ ": " ++ fault.message
  | .auditUnavailable fault =>
    "config io error: " ++ PathSetting.audit.name ++ ": " ++ fault.message
  | .parse => "config parse error"
  | .invalid fault => "invalid config: " ++ fault.reason

end Phrasebook
