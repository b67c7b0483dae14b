/-
This file decides which configurations are allowed. Sections are checked in their
order and settings in theirs, and the first fault is the one reported. Paths have
a length within bounds, no two documents have the same path up to blanks, and
numbers are positive and bounded.
-/

import Phrasebook.Config.Basic
import Phrasebook.Config.Error

namespace Phrasebook

namespace Config

/-! ### Bounds -/

/-- The greatest length of a path in bytes. -/
def maxPathBytes : Nat := 4096

/-- The greatest length of a component of a path in bytes. -/
def maxComponentBytes : Nat := 255

/-- The greatest number of shared documents. -/
def maxSharedSources : Nat := 16

/-- The greatest value that a number may have. -/
def greatest : NumberSetting → Nat
  | .maxRedirectDepth => 64
  | .maxExpansions => 65536
  | .maxOutputBytes => 16 * 1024 * 1024
  | .maxDocumentBytes => 64 * 1024 * 1024
  | .maxNestingDepth => 100

/-! ### Paths -/

/-- Whether some component of a path is too long. -/
def hasLongComponent (path : FilePath) : Bool :=
  path.components.any fun component => decide (maxComponentBytes < component.text.utf8ByteSize)

/-- Refuses a path that is empty or too long, blanks around it not counted. -/
def checkPath (setting : PathSetting) (text : String) : Except ConfigFault Unit :=
  let trimmed := Text.trim text
  if trimmed.isEmpty then .error (.emptyPath setting)
  else if maxPathBytes < trimmed.utf8ByteSize then .error (.longPath setting)
  else if hasLongComponent ⟨trimmed⟩ then .error (.longComponent setting)
  else .ok ()

/-- Whether two texts mean the same path. -/
def sameSource (first second : String) : Bool :=
  Text.trim first == Text.trim second

/-- Refuses the shared document at an index, behind those that stand before it. -/
def checkShared (primary : String) (earlier : List String) (source : String) :
    Except ConfigFault Unit :=
  let index := earlier.length
  match checkPath (.shared index) source with
  | .error fault => .error fault
  | .ok () =>
    if sameSource source primary then .error (.duplicatesPrimary index)
    else
      match earlier.findIdx? fun other => sameSource other source with
      | some first => .error (.duplicatesShared index first)
      | none => .ok ()

/-- Refuses the first shared document that is not allowed behind those before it. -/
def checkAllShared (primary : String) (earlier : List String) :
    List String → Except ConfigFault Unit
  | [] => .ok ()
  | source :: rest =>
    match checkShared primary earlier source with
    | .error fault => .error fault
    | .ok () => checkAllShared primary (earlier ++ [source]) rest

/-- Refuses the first fault of the documents. -/
def checkSources (sources : SourcesConfig) : Except ConfigFault Unit :=
  match checkPath .primary sources.primary with
  | .error fault => .error fault
  | .ok () =>
    if maxSharedSources < sources.shared.length then .error (.tooManyShared maxSharedSources)
    else checkAllShared sources.primary [] sources.shared

/-! ### Numbers -/

/-- Refuses zero and what is too large. -/
def checkNumber (setting : NumberSetting) (value : Nat) : Except ConfigFault Unit :=
  if value = 0 ∨ greatest setting < value then .error (.outOfRange setting) else .ok ()

/-- Refuses the first number out of range. -/
def checkNumbers : List (NumberSetting × Nat) → Except ConfigFault Unit
  | [] => .ok ()
  | (setting, value) :: rest =>
    match checkNumber setting value with
    | .error fault => .error fault
    | .ok () => checkNumbers rest

/-- The numbers of a configuration, in the order in which they are checked. -/
def numbers (config : Config) : List (NumberSetting × Nat) :=
  [(.maxRedirectDepth, config.limits.maxRedirectDepth),
    (.maxExpansions, config.limits.maxExpansions),
    (.maxOutputBytes, config.limits.maxOutputBytes),
    (.maxDocumentBytes, config.load.options.maxDocumentBytes),
    (.maxNestingDepth, config.load.options.maxNestingDepth)]

/-! ### The whole configuration -/

/-- Refuses a path for audit records that is not allowed. -/
def checkAudit (audit : AuditConfig) : Except ConfigFault Unit :=
  match audit.path with
  | none => .ok ()
  | some path => checkPath .audit path

/-- Refuses the first fault of a configuration. -/
def validate (config : Config) : Except ConfigFault Unit :=
  match checkSources config.sources with
  | .error fault => .error fault
  | .ok () =>
    match checkNumbers config.numbers with
    | .error fault => .error fault
    | .ok () => checkAudit config.audit

end Config

end Phrasebook
