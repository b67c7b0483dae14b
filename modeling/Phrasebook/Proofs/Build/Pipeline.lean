/-
This file compares building a catalog with judging each of its steps on its own. The
steps thread an environment through, open a sink on the way, and may stop at any of
the documents. Where the documents are there to be read, what comes out is decided by
the configuration, by the bytes of each document, by whether the sink opens and by the
references alone, and the error is that of the first step that fails on its own. A
line is recorded when every document has been loaded, and only then.
-/

import Phrasebook.Proofs.Build.Recording
import Phrasebook.Proofs.Build.Validated

namespace Phrasebook

/-! ### Steps that are judged on their own -/

/-- A step of building a catalog. -/
inductive BuildStep
  | configuration
  | document (path : FilePath)
  | sink
  | references

namespace Config

/-- The paths of the documents, the primary one first. -/
def documents (config : Config) : List FilePath :=
  config.resolveSource config.sources.primary :: config.sources.shared.map config.resolveSource

/-- The tables of documents in their order, given the bytes at each path. -/
def tables (config : Config) (contents : FilePath → ByteArray) (paths : List FilePath) :
    List Table :=
  paths.filterMap fun path => (Table.load (contents path) config.load.options).toOption

/-- The resolver of all documents, given the bytes at each path. -/
def resolver (config : Config) (contents : FilePath → ByteArray) : Resolver :=
  ⟨config.tables contents config.documents, config.limits⟩

/-- The problems that the configuration asks to look for, given the bytes at each path. -/
def problemsIn (config : Config) (contents : FilePath → ByteArray) : List ResolveError :=
  if config.load.validateReferences then (config.resolver contents).validate else []

/-- What a step fails with, if it fails. Nothing is passed on from one step to another. -/
def failure? (config : Config) (files : FileSystem) (contents : FilePath → ByteArray) :
    BuildStep → Option BuildError
  | .configuration =>
    match config.validate with
    | .error fault => some (.config (.invalid fault))
    | .ok () => none
  | .document path =>
    match Table.load (contents path) config.load.options with
    | .error error => some (.load path error)
    | .ok _ => none
  | .sink =>
    match config.openSink files with
    | .error error => some (.config error)
    | .ok _ => none
  | .references =>
    let problems := config.problemsIn contents
    if problems.isEmpty then none else some (.validation problems)

/-- The steps until the last document is loaded. -/
def loadSteps (config : Config) : List BuildStep :=
  .configuration :: .document (config.resolveSource config.sources.primary) :: .sink ::
    (config.sources.shared.map config.resolveSource).map .document

/-- All steps. -/
def steps (config : Config) : List BuildStep :=
  config.loadSteps ++ [.references]

end Config

/-! ### Documents -/

namespace Table

variable {files : FileSystem} {options : LoadOptions} {path : FilePath}

theorem load_of_checkSize {content : ByteArray} {error : LoadError}
    (refused : checkSize options content.size = .error error) :
    load content options = .error error := by
  rw [load, refused]

/-- The size that is checked before a file is read is that of what is read then, so the table
and the error are those of the bytes. -/
theorem loadFile_eq {content : ByteArray} (found : files.find path = .ok (.file content)) :
    loadFile files path options =
      match load content options with
      | .error error => .error (.load path error)
      | .ok table => .ok table := by
  unfold loadFile FileSystem.size FileSystem.read
  rw [found]
  simp only
  cases checked : checkSize options content.size with
  | error error => rw [load_of_checkSize checked]
  | ok => rfl

/-- Documents are loaded up to the first whose bytes make no table. -/
theorem loadFiles_eq (config : Config) (before : FileSystem) {contents : FilePath → ByteArray}
    {paths : List FilePath}
    (present : ∀ path ∈ paths, files.find path = .ok (.file (contents path))) :
    loadFiles files config.load.options paths =
      match (paths.map BuildStep.document).findSome? (config.failure? before contents) with
      | some error => .error error
      | none => .ok (config.tables contents paths) := by
  induction paths with
  | nil => rfl
  | cons path rest inductionHypothesis =>
    have onward := inductionHypothesis fun other member =>
      present other (List.mem_cons_of_mem _ member)
    rw [loadFiles, loadFile_eq (present path List.mem_cons_self), List.map_cons,
      List.findSome?_cons, Config.failure?]
    cases loaded : load (contents path) config.load.options with
    | error error => rfl
    | ok table =>
      simp only [onward]
      cases (rest.map BuildStep.document).findSome? (config.failure? before contents) with
      | some error => rfl
      | none => simp [Config.tables, loaded, Except.toOption]

end Table

/-! ### What building comes to -/

/-- Whatever the problems are, the event is recorded. -/
theorem Catalog.finish_eq (catalog : Catalog) (sink : Audit.Sink) (problems : List ResolveError)
    (timestamp : Nat) (environment : Environment) :
    catalog.finish sink problems timestamp environment =
      (if problems.isEmpty then .ok (catalog, sink) else .error (.validation problems),
        environment.record sink timestamp (catalog.loadEvent problems.length)) := by
  unfold finish
  cases problems <;> rfl

namespace Config

variable {config : Config} {environment : Environment} {contents : FilePath → ByteArray}

theorem problems_eq_problemsIn {primary : Table} {shared : List Table}
    (loaded : config.tables contents config.documents = primary :: shared) :
    config.problems ⟨primary, shared, config.limits⟩ = config.problemsIn contents := by
  rw [problems, problemsIn, resolver, loaded]
  rfl

section

variable (timestamp : Nat)
  (present : ∀ path ∈ config.documents,
    environment.files.find path = .ok (.file (contents path)))

include present

/-- Building stops with the error of the first step that fails until the last document is
loaded, without a record, or it has all tables and finishes. -/
theorem build_cases :
    (∃ error after,
      config.loadSteps.findSome? (config.failure? environment.files contents) = some error ∧
        (after = environment ∨ ∃ sink opened,
          config.openSink environment.files = .ok (sink, opened) ∧
            environment.Wrote sink [] after) ∧
        config.build timestamp environment = (.error error, after)) ∨
    ∃ primary shared sink opened,
      config.loadSteps.findSome? (config.failure? environment.files contents) = none ∧
        config.tables contents config.documents = primary :: shared ∧
        config.openSink environment.files = .ok (sink, opened) ∧
        config.build timestamp environment =
          Catalog.finish ⟨primary, shared, config.limits⟩ sink (config.problemsIn contents)
            timestamp { environment with files := opened } := by
  unfold build loadSteps
  simp only [List.findSome?_cons]
  cases valid : config.validate with
  | error fault =>
    refine Or.inl ⟨.config (.invalid fault), environment, ?_, Or.inl rfl, rfl⟩
    simp only [failure?, valid]
  | ok =>
    simp only [failure?, valid]
    rw [Table.loadFile_eq (present _ List.mem_cons_self)]
    cases loaded : Table.load (contents (config.resolveSource config.sources.primary))
        config.load.options with
    | error error => exact Or.inl ⟨_, environment, rfl, Or.inl rfl, rfl⟩
    | ok primary =>
      simp only
      cases opens : config.openSink environment.files with
      | error error => exact Or.inl ⟨_, environment, rfl, Or.inl rfl, rfl⟩
      | ok result =>
        obtain ⟨sink, opened⟩ := result
        have kept : ∀ path ∈ config.sources.shared.map config.resolveSource,
            opened.find path = .ok (.file (contents path)) := fun path member =>
          (keeps_openSink opens).find (present path (List.mem_cons_of_mem _ member))
        simp only [Table.loadFiles_eq config environment.files kept]
        cases failed : ((config.sources.shared.map config.resolveSource).map
            BuildStep.document).findSome? (config.failure? environment.files contents) with
        | some error =>
          exact Or.inl ⟨error, _, rfl, Or.inr ⟨sink, opened, rfl, wrote_openSink opens⟩, rfl⟩
        | none =>
          have all : config.tables contents config.documents =
              primary :: config.tables contents
                (config.sources.shared.map config.resolveSource) := by
            rw [tables, documents, List.filterMap_cons, loaded]
            rfl
          refine Or.inr ⟨primary, _, sink, opened, rfl, all, rfl, ?_⟩
          simp only [problems_eq_problemsIn all]

theorem build_eq_error_iff (error : BuildError) :
    (config.build timestamp environment).1 = .error error ↔
      config.steps.findSome? (config.failure? environment.files contents) = some error := by
  rw [steps, List.findSome?_append]
  rcases build_cases timestamp present with
    ⟨failed, after, stopped, -, built⟩ | ⟨primary, shared, sink, opened, clear, -, -, built⟩
  · rw [stopped, built]
    simp
  · rw [clear, built, Catalog.finish_eq]
    simp only [Option.none_or, List.findSome?_singleton, failure?]
    split <;> simp

theorem build_eq_ok_iff :
    (∃ catalog sink, (config.build timestamp environment).1 = .ok (catalog, sink)) ↔
      ∀ step ∈ config.steps, config.failure? environment.files contents step = none := by
  rw [← List.findSome?_eq_none_iff]
  have failed := build_eq_error_iff timestamp present
  cases built : (config.build timestamp environment).1 with
  | error error =>
    rw [(failed error).mp built]
    simp
  | ok result =>
    refine ⟨fun _ => ?_, fun _ => ⟨result.1, result.2, rfl⟩⟩
    refine Option.eq_none_iff_forall_ne_some.mpr fun error found => ?_
    rw [(failed error).mpr found] at built
    cases built

end

/-! ### The steps that do not fail -/

theorem failure?_configuration_eq_none_iff {files : FileSystem} :
    config.failure? files contents .configuration = none ↔ config.validate = .ok () := by
  rw [failure?]
  cases config.validate <;> simp

theorem failure?_document_eq_none_iff {files : FileSystem} {path : FilePath} :
    config.failure? files contents (.document path) = none ↔
      ∃ table, Table.load (contents path) config.load.options = .ok table := by
  rw [failure?]
  cases Table.load (contents path) config.load.options <;> simp

theorem failure?_sink_eq_none_iff {files : FileSystem} :
    config.failure? files contents .sink = none ↔
      ∃ sink opened, config.openSink files = .ok (sink, opened) := by
  rw [failure?]
  cases config.openSink files with
  | error error => simp
  | ok result =>
    obtain ⟨sink, opened⟩ := result
    simp

theorem failure?_references_eq_none_iff {files : FileSystem} :
    config.failure? files contents .references = none ↔
      (config.load.validateReferences = true → (config.resolver contents).validate = []) := by
  rw [failure?, problemsIn]
  cases config.load.validateReferences <;> simp

theorem forall_steps_iff {files : FileSystem} :
    (∀ step ∈ config.steps, config.failure? files contents step = none) ↔
      config.validate = .ok () ∧
        (∀ path ∈ config.documents,
          ∃ table, Table.load (contents path) config.load.options = .ok table) ∧
        (∃ sink opened, config.openSink files = .ok (sink, opened)) ∧
        (config.load.validateReferences = true → (config.resolver contents).validate = []) := by
  simp only [steps, loadSteps, documents, List.cons_append, List.forall_mem_cons,
    List.forall_mem_append, List.forall_mem_map, failure?_configuration_eq_none_iff,
    failure?_document_eq_none_iff, failure?_sink_eq_none_iff, failure?_references_eq_none_iff]
  simp only [List.not_mem_nil, false_imp_iff, implies_true, and_true]
  exact ⟨fun ⟨valid, primary, opens, shared, resolves⟩ =>
      ⟨valid, ⟨primary, shared⟩, opens, resolves⟩,
    fun ⟨valid, ⟨primary, shared⟩, opens, resolves⟩ =>
      ⟨valid, primary, opens, shared, resolves⟩⟩

end Config

/-! ### The whole -/

/-- Building a catalog is its steps, each judged on its own. -/
structure StepwiseBuild (config : Config) (contents : FilePath → ByteArray) (timestamp : Nat)
    (environment : Environment) : Prop where
  /-- When a catalog is built. -/
  succeeds : (∃ catalog sink, (config.build timestamp environment).1 = .ok (catalog, sink)) ↔
    config.validate = .ok () ∧
      (∀ path ∈ config.documents,
        ∃ table, Table.load (contents path) config.load.options = .ok table) ∧
      (∃ sink opened, config.openSink environment.files = .ok (sink, opened)) ∧
      (config.load.validateReferences = true → (config.resolver contents).validate = [])
  /-- What the catalog answers. -/
  answers : ∀ catalog sink,
    (config.build timestamp environment).1 = .ok (catalog, sink) →
      ∀ (key : String) (values : Values),
        catalog.resolve key = (config.resolver contents).resolve key ∧
          catalog.render key values = (config.resolver contents).render key values
  /-- The error is that of the first step that fails. -/
  fails : ∀ error, (config.build timestamp environment).1 = .error error ↔
    config.steps.findSome? (config.failure? environment.files contents) = some error
  /-- A document that is too large is refused before it is read as it would be afterwards. -/
  oversized : ∀ path ∈ config.documents,
    config.load.options.maxDocumentBytes < (contents path).size →
      ∃ error, environment.files.size path = .ok (contents path).size ∧
        Table.checkSize config.load.options (contents path).size = .error error ∧
        Table.load (contents path) config.load.options = .error error ∧
        Table.loadFile environment.files path config.load.options = .error (.load path error)
  /-- With all documents loaded one event is recorded, whatever comes of the references. -/
  recorded :
    (∀ step ∈ config.loadSteps, config.failure? environment.files contents step = none) →
      ∃ primary shared sink opened,
        config.tables contents config.documents = primary :: shared ∧
          config.openSink environment.files = .ok (sink, opened) ∧
          environment.Wrote sink
            [Audit.Event.line timestamp (.catalogLoad primary.size (shared.map Table.size)
              config.limits.maxRedirectDepth (config.problemsIn contents).length)]
            (config.build timestamp environment).2
  /-- If a step fails before, nothing is recorded, though the sink may be open by then. -/
  unrecorded :
    (∃ step ∈ config.loadSteps, config.failure? environment.files contents step ≠ none) →
      (config.build timestamp environment).2 = environment ∨
        ∃ sink opened, config.openSink environment.files = .ok (sink, opened) ∧
          environment.Wrote sink [] (config.build timestamp environment).2

/-- With files where the documents are said to be, building a catalog is its steps, each judged
on its own. -/
theorem Config.build_stepwise (config : Config) (contents : FilePath → ByteArray)
    (timestamp : Nat) (environment : Environment)
    (present : ∀ path ∈ config.documents,
      environment.files.find path = .ok (.file (contents path))) :
    StepwiseBuild config contents timestamp environment where
  succeeds := (build_eq_ok_iff timestamp present).trans forall_steps_iff
  fails := build_eq_error_iff timestamp present
  answers := by
    intro catalog sink result key values
    rcases build_cases timestamp present with
      ⟨error, after, -, -, built⟩ | ⟨primary, shared, used, opened, -, loaded, -, built⟩
    · rw [built] at result
      cases result
    · rw [built] at result
      obtain ⟨rfl, -⟩ := Catalog.problems_eq_nil_of_finish result
      rw [resolver, loaded]
      exact ⟨rfl, rfl⟩
  oversized := by
    intro path member large
    have refused : Table.checkSize config.load.options (contents path).size =
        .error (.malformed none
          (.oversized (contents path).size config.load.options.maxDocumentBytes)) :=
      if_pos large
    have failed := Table.load_of_checkSize refused
    have found := present path member
    refine ⟨_, ?_, refused, failed, ?_⟩
    · rw [FileSystem.size, found]
    · rw [Table.loadFile_eq found, failed]
  recorded := by
    intro clear
    rw [← List.findSome?_eq_none_iff] at clear
    rcases build_cases timestamp present with
      ⟨error, after, stopped, -, -⟩ | ⟨primary, shared, sink, opened, -, loaded, opens, built⟩
    · rw [clear] at stopped
      cases stopped
    · refine ⟨primary, shared, sink, opened, loaded, opens, ?_⟩
      rw [built, Catalog.finish_eq]
      exact (wrote_openSink opens).writeLine _
  unrecorded := by
    rintro ⟨step, member, failed⟩
    rcases build_cases timestamp present with
      ⟨error, after, -, silent, built⟩ | ⟨primary, shared, sink, opened, clear, -⟩
    · rw [built]
      exact silent
    · exact absurd (List.findSome?_eq_none_iff.mp clear step member) failed

/-- A configuration with two documents, which keeps its records in a file. -/
def loggedConfig : Config :=
  { sources := { primary := "en.json", shared := ["common.json"] }
    audit := { path := some "audit.log" } }

/-- The bytes of two documents. The one that is not the primary one refers to a key that neither
of them has. -/
def loggedContents (path : FilePath) : ByteArray :=
  if path.text = "en.json" then "\x7b\"greeting\":\"Hello\"\x7d".toUTF8
  else "\x7b\"farewell\":\"[%key:menu.close%]\"\x7d".toUTF8

/-- A working directory with the two documents and no file of records. -/
def loggedEnvironment : Environment :=
  { files :=
      (FileSystem.withFile {} ⟨.working 0, ["en.json"]⟩ (loggedContents ⟨"en.json"⟩)).withFile
        ⟨.working 0, ["common.json"]⟩ (loggedContents ⟨"common.json"⟩) }

theorem build_stepwise_logged :
    (∃ problems, (loggedConfig.build 0 loggedEnvironment).1 = .error (.validation problems)) ∧
      loggedEnvironment.Wrote (.file ⟨.working 0, ["audit.log"]⟩)
        [Audit.Event.line 0 (.catalogLoad 1 [1] 16 1)]
        (loggedConfig.build 0 loggedEnvironment).2 := by
  have listed : loggedConfig.documents = [⟨"en.json"⟩, ⟨"common.json"⟩] := by decide +kernel
  have present : ∀ path ∈ loggedConfig.documents,
      loggedEnvironment.files.find path = .ok (.file (loggedContents path)) := by
    rw [listed]
    simp only [List.forall_mem_cons, List.not_mem_nil, false_imp_iff, implies_true, and_true]
    exact ⟨rfl, rfl⟩
  have stepwise := loggedConfig.build_stepwise loggedContents 0 loggedEnvironment present
  have problem : (loggedConfig.problemsIn loggedContents).length = 1 := by decide +kernel
  constructor
  · refine ⟨_, (stepwise.fails (.validation (loggedConfig.problemsIn loggedContents))).mpr ?_⟩
    decide +kernel
  · obtain ⟨primary, shared, sink, opened, loaded, opens, wrote⟩ :=
      stepwise.recorded (by decide +kernel)
    have sizes : (loggedConfig.tables loggedContents loggedConfig.documents).map Table.size =
        [1, 1] := by decide +kernel
    have place : (loggedConfig.openSink loggedEnvironment.files).map Prod.fst =
        .ok (.file ⟨.working 0, ["audit.log"]⟩) := by decide +kernel
    rw [loaded, List.map_cons, List.cons.injEq] at sizes
    rw [opens] at place
    cases place
    rw [sizes.1, sizes.2, problem] at wrote
    exact wrote

end Phrasebook
