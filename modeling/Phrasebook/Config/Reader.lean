/-
This file reads configurations from TOML. A section is a table, whose unknown keys
are ignored as long as their numbers are in range, or an array with the settings
in their order. Whatever is missing has its default, and a value of the wrong kind
makes the text no configuration.
-/

import Phrasebook.Config.Basic
import Phrasebook.Config.Error
import Phrasebook.Toml.Reader

namespace Phrasebook

namespace Config

open Toml (Value Members)

/-! ### Settings -/

/-- The policy that a value names: its name as a text, or as the only key of a table that says
nothing else. -/
def policy? : Value → Option MalformedReferencePolicy
  | .text name => MalformedReferencePolicy.ofName? name
  | .table _ [(name, .table _ [])] => MalformedReferencePolicy.ofName? name
  | .table _ [(name, .list [])] => MalformedReferencePolicy.ofName? name
  | _ => none

/-- The setting with a name, or its default if it is missing. -/
def setting {Setting : Type} (read : Value → Option Setting) (fallback : Setting)
    (members : Members) (name : String) : Option Setting :=
  match members.lookup name with
  | none => some fallback
  | some value => read value

/-! ### Sections -/

/-- The settings of a section with the names of all settings in their order. A date or a time
holds no setting. -/
def settings (names : List String) : Option Value → Option Members
  | none => some []
  | some (.table _ members) =>
    if members.all fun member => names.contains member.1 || member.2.inRange then some members
    else none
  | some (.list elements) => some (names.zip elements)
  | some (.tables newestFirst) =>
    some (names.zip (newestFirst.reverse.map (Value.table .header)))
  | some .moment => some []
  | some _ => none

/-- Reads the documents. -/
def readSources (held : Option Value) : Option SourcesConfig := do
  let members ← settings ["primary", "shared"] held
  let usual : SourcesConfig := {}
  let primary ← setting Value.text? usual.primary members "primary"
  let shared ← setting Value.texts? usual.shared members "shared"
  return { primary, shared }

/-- Reads the limits of resolution. -/
def readLimits (held : Option Value) : Option Limits := do
  let members ← settings ["max_redirect_depth", "max_expansions", "max_output_bytes"] held
  let usual : Limits := {}
  let maxRedirectDepth ← setting Value.size? usual.maxRedirectDepth members "max_redirect_depth"
  let maxExpansions ← setting Value.size? usual.maxExpansions members "max_expansions"
  let maxOutputBytes ← setting Value.size? usual.maxOutputBytes members "max_output_bytes"
  return { maxRedirectDepth, maxExpansions, maxOutputBytes }

/-- Reads how documents are loaded. -/
def readLoad (held : Option Value) : Option LoadConfig := do
  let members ← settings
    ["max_document_bytes", "max_nesting_depth", "malformed_reference", "validate_references"]
    held
  let usual : LoadConfig := {}
  let maxDocumentBytes ←
    setting Value.size? usual.options.maxDocumentBytes members "max_document_bytes"
  let maxNestingDepth ←
    setting Value.size? usual.options.maxNestingDepth members "max_nesting_depth"
  let malformedReference ←
    setting policy? usual.options.malformedReference members "malformed_reference"
  let validateReferences ←
    setting Value.boolean? usual.validateReferences members "validate_references"
  return {
    options := { maxDocumentBytes, maxNestingDepth, malformedReference }
    validateReferences }

/-- Reads where audit records go. -/
def readAudit (held : Option Value) : Option AuditConfig := do
  let members ← settings ["enabled", "path"] held
  let usual : AuditConfig := {}
  let enabled ← setting Value.boolean? usual.enabled members "enabled"
  let path ← setting (fun value => value.text?.map some) usual.path members "path"
  return { enabled, path }

/-! ### Configurations -/

/-- Reads the sections among the members of a document. -/
def ofMembers (members : Members) : Option Config := do
  let known ← settings ["sources", "resolver", "load", "audit"] (some (.table .header members))
  let sources ← readSources (known.lookup "sources")
  let limits ← readLimits (known.lookup "resolver")
  let load ← readLoad (known.lookup "load")
  let audit ← readAudit (known.lookup "audit")
  return { sources, limits, load, audit }

/-- Reads a configuration without judging it. -/
def ofToml (text : String) : Except ConfigError Config :=
  match (Toml.parse text).bind ofMembers with
  | none => .error .parse
  | some config => .ok config

end Config

end Phrasebook
