/-
This file says how far building a catalog goes. It is refused before the sink for audit
records is open, and then nothing has changed; or it is interrupted by a shared document,
with the sink open and nothing recorded; or it is finished, and the event that the catalog
was put together is recorded. Documents are read where their paths lead and nowhere else,
so files in which the paths of the documents find the same give the same tables.
-/

import Phrasebook.Proofs.Build.Pipeline

namespace Phrasebook

/-- The error is not about references, so building stopped before all documents were loaded. -/
def BuildError.IsEarly (error : BuildError) : Prop :=
  ∀ problems, error ≠ .validation problems

theorem BuildError.isEarly_config (error : ConfigError) : (config error).IsEarly :=
  fun _ same => nomatch same

/-! ### Documents -/

namespace Table

variable {files other : FileSystem} {options : LoadOptions} {path : FilePath}

/-- A document that was loaded is a file with bytes that make the table. -/
theorem loadFile_eq_ok {table : Table} (loaded : loadFile files path options = .ok table) :
    ∃ content, files.find path = .ok (.file content) ∧ load content options = .ok table := by
  unfold loadFile FileSystem.size FileSystem.read at loaded
  cases found : files.find path with
  | error fault =>
    rw [found] at loaded
    cases loaded
  | ok entry =>
    rw [found] at loaded
    cases entry with
    | directory =>
      simp only at loaded
      split at loaded <;> cases loaded
    | file content =>
      simp only at loaded
      split at loaded
      · cases loaded
      · split at loaded
        · cases loaded
        · rename_i made
          cases loaded
          exact ⟨content, rfl, made⟩

theorem isEarly_of_loadFile {error : BuildError}
    (failed : loadFile files path options = .error error) : error.IsEarly := by
  unfold loadFile at failed
  intro problems same
  subst same
  split at failed
  · cases failed
  · split at failed
    · cases failed
    · split at failed
      · cases failed
      · split at failed <;> cases failed

theorem loadFile_congr (same : files.find path = other.find path) :
    loadFile files path options = loadFile other path options := by
  unfold loadFile FileSystem.size FileSystem.read
  rw [same]

variable {paths : List FilePath}

/-- Documents that were loaded were loaded each. -/
theorem exists_loadFile_of_loadFiles {tables : List Table}
    (loaded : loadFiles files options paths = .ok tables) :
    ∀ path ∈ paths, ∃ table, loadFile files path options = .ok table := by
  induction paths generalizing tables with
  | nil => exact fun path member => absurd member List.not_mem_nil
  | cons path rest inductionHypothesis =>
    rw [loadFiles] at loaded
    split at loaded
    · cases loaded
    · rename_i table first
      split at loaded
      · cases loaded
      · rename_i others
        exact List.forall_mem_cons.mpr ⟨⟨table, first⟩, inductionHypothesis others⟩

theorem isEarly_of_loadFiles {error : BuildError}
    (failed : loadFiles files options paths = .error error) : error.IsEarly := by
  induction paths with
  | nil => cases failed
  | cons path rest inductionHypothesis =>
    rw [loadFiles] at failed
    split at failed
    · rename_i first
      cases failed
      exact isEarly_of_loadFile first
    · split at failed
      · rename_i others
        cases failed
        exact inductionHypothesis others
      · cases failed

theorem loadFiles_congr (same : ∀ path ∈ paths, files.find path = other.find path) :
    loadFiles files options paths = loadFiles other options paths := by
  induction paths with
  | nil => rfl
  | cons path rest inductionHypothesis =>
    rw [List.forall_mem_cons] at same
    rw [loadFiles, loadFiles, loadFile_congr same.1, inductionHypothesis same.2]

end Table

/-! ### How far building goes -/

namespace Config

/-- The paths of the shared documents. -/
def sharedDocuments (config : Config) : List FilePath :=
  config.sources.shared.map config.resolveSource

/-- The catalog of tables, with the limits of the configuration. -/
def assemble (config : Config) (primary : Table) (shared : List Table) : Catalog :=
  ⟨primary, shared, config.limits⟩

/-- The primary document is loaded and the sink is open. -/
structure Opens (config : Config) (files : FileSystem) (primary : Table) (sink : Audit.Sink)
    (opened : FileSystem) : Prop where
  valid : config.validate = .ok ()
  loaded : Table.loadFile files (config.resolveSource config.sources.primary)
    config.load.options = .ok primary
  opens : config.openSink files = .ok (sink, opened)

/-- The ways in which building goes. -/
inductive Course (config : Config) (environment : Environment) : Prop
  /-- Building stops before the sink is open, and nothing has changed. -/
  | refused (error : BuildError) (early : error.IsEarly)
      (built : ∀ timestamp, config.build timestamp environment = (.error error, environment))
  /-- A shared document cannot be loaded. -/
  | interrupted (primary : Table) (sink : Audit.Sink) (opened : FileSystem) (error : BuildError)
      (opens : config.Opens environment.files primary sink opened)
      (failed : Table.loadFiles opened config.load.options config.sharedDocuments = .error error)
  /-- All documents are loaded. -/
  | finished (primary : Table) (sink : Audit.Sink) (opened : FileSystem) (shared : List Table)
      (opens : config.Opens environment.files primary sink opened)
      (loaded : Table.loadFiles opened config.load.options config.sharedDocuments = .ok shared)

variable {config : Config} {environment : Environment} {primary : Table} {sink : Audit.Sink}
  {opened : FileSystem}

theorem build_of_opens (opens : config.Opens environment.files primary sink opened)
    (timestamp : Nat) :
    config.build timestamp environment =
      match Table.loadFiles opened config.load.options config.sharedDocuments with
      | .error error => (.error error, { environment with files := opened })
      | .ok shared =>
        (config.assemble primary shared).finish sink
          (config.problems (config.assemble primary shared)) timestamp
          { environment with files := opened } := by
  unfold build
  rw [opens.valid]
  simp only [opens.loaded, opens.opens]
  rfl

section

variable {shared : List Table} (opens : config.Opens environment.files primary sink opened)
  (loaded : Table.loadFiles opened config.load.options config.sharedDocuments = .ok shared)
  (timestamp : Nat)

include opens loaded

/-- What building comes to with all documents loaded is for the references to say. -/
theorem build_of_finished :
    config.build timestamp environment =
      (if (config.problems (config.assemble primary shared)).isEmpty then
          .ok (config.assemble primary shared, sink)
        else .error (.validation (config.problems (config.assemble primary shared))),
        Environment.record { environment with files := opened } sink timestamp
          ((config.assemble primary shared).loadEvent
            (config.problems (config.assemble primary shared)).length)) := by
  rw [build_of_opens opens, loaded]
  exact Catalog.finish_eq _ _ _ _ _

/-- With all documents loaded one line is recorded. -/
theorem wrote_of_finished :
    environment.Wrote sink
      [((config.assemble primary shared).loadEvent
        (config.problems (config.assemble primary shared)).length).line timestamp]
      (config.build timestamp environment).2 := by
  rw [build_of_finished opens loaded]
  exact (wrote_openSink opens.opens).writeLine _

end

/-- Building goes in one of these ways. -/
theorem course (config : Config) (environment : Environment) : config.Course environment := by
  cases valid : config.validate with
  | error fault =>
    refine .refused (.config (.invalid fault)) (BuildError.isEarly_config _) fun timestamp => ?_
    rw [build, valid]
  | ok =>
    cases loaded : Table.loadFile environment.files
        (config.resolveSource config.sources.primary) config.load.options with
    | error error =>
      refine .refused error (Table.isEarly_of_loadFile loaded) fun timestamp => ?_
      rw [build, valid]
      simp only [loaded]
    | ok primary =>
      cases opens : config.openSink environment.files with
      | error error =>
        refine .refused (.config error) (BuildError.isEarly_config error) fun timestamp => ?_
        rw [build, valid]
        simp only [loaded, opens]
      | ok result =>
        obtain ⟨sink, opened⟩ := result
        cases shared : Table.loadFiles opened config.load.options config.sharedDocuments with
        | error error => exact .interrupted primary sink opened error ⟨valid, loaded, opens⟩ shared
        | ok tables => exact .finished primary sink opened tables ⟨valid, loaded, opens⟩ shared

end Config

end Phrasebook
