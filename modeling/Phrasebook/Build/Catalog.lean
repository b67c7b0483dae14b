/-
This file builds catalogs from configurations. The steps come in a fixed order,
and the first that fails is the error: the configuration is checked, the primary
document is loaded, the sink for audit records is opened, the shared documents are
loaded in their order, and then all references are followed once, if the
configuration asks for it. The outcome of this last step is recorded, whatever it
is; a step before it that fails leaves no record.
-/

import Phrasebook.Build.Environment
import Phrasebook.Build.Error
import Phrasebook.Catalog
import Phrasebook.Config.Load
import Phrasebook.Load.Table

namespace Phrasebook

/-! ### Documents -/

/-- Loads the table of the document at a path. Its size is checked before it is read. -/
def Table.loadFile (files : FileSystem) (path : FilePath) (options : LoadOptions) :
    Except BuildError Table :=
  match files.size path with
  | .error fault => .error (.unreadable path fault)
  | .ok size =>
    match checkSize options size with
    | .error error => .error (.load path error)
    | .ok () =>
      match files.read path with
      | .error fault => .error (.unreadable path fault)
      | .ok bytes =>
        match Table.load bytes options with
        | .error error => .error (.load path error)
        | .ok table => .ok table

/-- Loads the tables of several documents. -/
def Table.loadFiles (files : FileSystem) (options : LoadOptions) :
    List FilePath → Except BuildError (List Table)
  | [] => .ok []
  | path :: rest =>
    match Table.loadFile files path options with
    | .error error => .error error
    | .ok table =>
      match Table.loadFiles files options rest with
      | .error error => .error error
      | .ok tables => .ok (table :: tables)

/-! ### The sink -/

/-- Opens the sink for audit records. -/
def Config.openSink (config : Config) (files : FileSystem) :
    Except ConfigError (Audit.Sink × FileSystem) :=
  match config.auditDestination with
  | .disabled => .ok (.discard, files)
  | .standardError => .ok (.standardError, files)
  | .file path =>
    match files.openToAppend path with
    | .error fault => .error (.auditUnavailable fault)
    | .ok (place, opened) => .ok (.file place, opened)

/-! ### Catalogs -/

/-- The problems that a configuration asks to look for. -/
def Config.problems (config : Config) (catalog : Catalog) : List ResolveError :=
  if config.load.validateReferences then catalog.validate else []

/-- Records that a catalog was put together, and refuses it if there are problems. -/
def Catalog.finish (catalog : Catalog) (sink : Audit.Sink) (problems : List ResolveError)
    (timestamp : Nat) (environment : Environment) :
    Except BuildError (Catalog × Audit.Sink) × Environment :=
  let recorded := environment.record sink timestamp (catalog.loadEvent problems.length)
  if problems.isEmpty then (.ok (catalog, sink), recorded)
  else (.error (.validation problems), recorded)

/-- Builds the catalog of a configuration at a time, with the sink for its audit records. -/
def Config.build (config : Config) (timestamp : Nat) (environment : Environment) :
    Except BuildError (Catalog × Audit.Sink) × Environment :=
  match config.validate with
  | .error fault => (.error (.config (.invalid fault)), environment)
  | .ok () =>
    let options := config.load.options
    match Table.loadFile environment.files (config.resolveSource config.sources.primary)
        options with
    | .error error => (.error error, environment)
    | .ok primary =>
      match config.openSink environment.files with
      | .error error => (.error (.config error), environment)
      | .ok (sink, files) =>
        let opened := { environment with files }
        match Table.loadFiles files options (config.sources.shared.map config.resolveSource) with
        | .error error => (.error error, opened)
        | .ok shared =>
          let catalog : Catalog := ⟨primary, shared, config.limits⟩
          catalog.finish sink (config.problems catalog) timestamp opened

/-- Renders a key without ever failing, and records it at a time if that is not the text that
was asked for. -/
def Catalog.renderRecorded (catalog : Catalog) (sink : Audit.Sink) (key : String)
    (values : Values) (timestamp : Nat) (environment : Environment) : String × Environment :=
  match catalog.renderOrFallback key values with
  | (text, event) => (text, environment.recordAll sink timestamp event.toList)

end Phrasebook
