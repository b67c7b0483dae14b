/-
This file tells when a catalog can be built again. Building reads documents, and it may
append to a file of records whose path is set apart from theirs. Once a record is in a file
that is also a document, the document is no longer what it was. That is the only way in
which building gets in its own way: it is repeatable, with the same outcome and with every
document as it was, exactly unless all documents are loaded and the records go into one
of them.
-/

import Phrasebook.Proofs.Build.AuditLog

namespace Phrasebook

namespace Config

/-- Records go into the file that the path leads to, however the two paths are written. -/
def LogsInto (config : Config) (files : FileSystem) (path : FilePath) : Prop :=
  ∃ log place, config.auditDestination = .file log ∧ files.LeadsTo log place ∧
    files.LeadsTo path place

/-- All documents are loaded: there is a catalog, or it is refused for its references. -/
def Completes (config : Config) (timestamp : Nat) (environment : Environment) : Prop :=
  (∃ catalog sink, (config.build timestamp environment).1 = .ok (catalog, sink)) ∨
    ∃ problems, (config.build timestamp environment).1 = .error (.validation problems)

end Config

/-- A catalog is built twice, with the same outcome, and all documents are as they were. -/
structure Repeatable (config : Config) (earlier later : Nat) (environment : Environment) :
    Prop where
  outcome : (config.build later (config.build earlier environment).2).1 =
    (config.build earlier environment).1
  documents : ∀ path ∈ config.documents, ∀ content,
    environment.files.find path = .ok (.file content) →
      (config.build earlier environment).2.files.find path = .ok (.file content) ∧
        (config.build later (config.build earlier environment).2).2.files.find path =
          .ok (.file content)

/-! ### Documents that records go into -/

namespace Table

/-- An empty file is no document. -/
theorem load_empty (options : LoadOptions) :
    load ByteArray.empty options = .error (.malformed none (.notJson .endInValue)) :=
  rfl

end Table

theorem Audit.size_textOfLines_pos (line : String) (rest : List String) :
    0 < (textOfLines (line :: rest)).toUTF8.size := by
  rw [textOfLines_cons]
  have ended : 0 < "\n".utf8ByteSize := by decide
  simp only [String.toUTF8, String.toByteArray_append, ByteArray.size_append,
    String.size_toByteArray]
  omega

namespace Config

variable {config : Config} {environment after : Environment} {primary : Table}
  {sink : Audit.Sink} {opened : FileSystem} {lines : List String} {path : FilePath}

/-- Where records go does not depend on what was recorded. -/
theorem logsInto_iff_of_wrote (wrote : environment.Wrote sink lines after) :
    config.LogsInto after.files path ↔ config.LogsInto environment.files path := by
  cases sink with
  | discard =>
    rw [Environment.Wrote] at wrote
    rw [wrote]
  | standardError =>
    rw [Environment.Wrote] at wrote
    rw [wrote]
  | file place =>
    simp only [LogsInto, wrote.2.leadsTo_iff]

/-- Records leave alone what they do not go into. -/
theorem find_eq_of_wrote (opens : config.openSink environment.files = .ok (sink, opened))
    (wrote : environment.Wrote sink lines after)
    (apart : ¬config.LogsInto environment.files path) :
    after.files.find path = opened.find path := by
  rcases openSink_cases opens with ⟨-, rfl, rfl⟩ | ⟨-, rfl, rfl⟩ |
    ⟨log, place, destination, rfl, found⟩
  · rw [Environment.Wrote] at wrote
    rw [wrote]
  · rw [Environment.Wrote] at wrote
    rw [wrote]
  · have opening := FileSystem.appended_openToAppend found
    refine (opening.of_opened wrote.2).find_eq opening.held fun leads => ?_
    exact apart ⟨log, place, destination, FileSystem.leadsTo_of_openToAppend found,
      opening.leadsTo_iff.mp leads⟩

/-- After records were written the sink opens again, as it is. -/
theorem openSink_again (opens : config.openSink environment.files = .ok (sink, opened))
    (wrote : environment.Wrote sink lines after) :
    config.openSink after.files = .ok (sink, after.files) := by
  rw [openSink]
  rcases openSink_cases opens with ⟨destination, rfl, -⟩ | ⟨destination, rfl, -⟩ |
    ⟨log, place, destination, rfl, found⟩
  · rw [destination]
  · rw [destination]
  · rw [destination]
    simp only [wrote.2.openToAppend found]

/-! ### Building again -/

theorem Opens.again (opens : config.Opens environment.files primary sink opened)
    (wrote : environment.Wrote sink lines after)
    (same : after.files.find (config.resolveSource config.sources.primary) =
      opened.find (config.resolveSource config.sources.primary)) :
    config.Opens after.files primary sink after.files where
  valid := opens.valid
  loaded := by
    obtain ⟨content, found, -⟩ := Table.loadFile_eq_ok opens.loaded
    rw [← opens.loaded]
    refine Table.loadFile_congr ?_
    rw [same, (keeps_openSink opens.opens).find found, found]
  opens := openSink_again opens.opens wrote

/-- A build that a shared document interrupted is interrupted by it again. -/
theorem repeatable_of_interrupted {error : BuildError}
    (opens : config.Opens environment.files primary sink opened)
    (failed : Table.loadFiles opened config.load.options config.sharedDocuments = .error error)
    (earlier later : Nat) : Repeatable config earlier later environment := by
  have first := build_of_opens opens earlier
  have second := build_of_opens (opens.again (wrote_openSink opens.opens) rfl) later
  rw [failed] at first second
  refine ⟨?_, fun path member content found => ?_⟩
  · rw [first, second]
  · have kept := (keeps_openSink opens.opens).find found
    rw [first, second]
    exact ⟨kept, kept⟩

section

variable {shared : List Table} (opens : config.Opens environment.files primary sink opened)
  (loaded : Table.loadFiles opened config.load.options config.sharedDocuments = .ok shared)

include opens loaded

/-- With all documents loaded, each was there before the sink was opened: a file that opening
creates is empty, and no document. -/
theorem exists_of_finished (member : path ∈ config.documents) :
    ∃ content, environment.files.find path = .ok (.file content) := by
  rcases List.mem_cons.mp member with rfl | inShared
  · obtain ⟨content, found, -⟩ := Table.loadFile_eq_ok opens.loaded
    exact ⟨content, found⟩
  · obtain ⟨table, made⟩ := Table.exists_loadFile_of_loadFiles loaded path inShared
    obtain ⟨content, found, makes⟩ := Table.loadFile_eq_ok made
    refine ⟨content, ?_⟩
    rcases openSink_cases opens.opens with ⟨-, -, rfl⟩ | ⟨-, -, rfl⟩ | ⟨log, place, -, -, opening⟩
    · exact found
    · exact found
    · have appended := FileSystem.appended_openToAppend opening
      obtain ⟨other, leads⟩ := FileSystem.exists_leadsTo_of_find found
      have held := leads.find_eq_ok_iff.mp found
      refine (appended.leadsTo_iff.mp leads).find_eq_ok_iff.mpr ?_
      by_cases same : other = place
      · subst same
        rcases FileSystem.openToAppend_cases opening with ⟨-, rfl⟩ | ⟨missing, -⟩
        · exact held
        · rw [appended.held, FileSystem.contentAt, missing] at held
          cases held
          rw [ByteArray.append_empty, Table.load_empty] at makes
          cases makes
      · rw [← appended.elsewhere other same, held]

/-- With all documents loaded, building is repeatable if no document has records. -/
theorem repeatable_of_finished
    (apart : ∀ path ∈ config.documents, ¬config.LogsInto environment.files path)
    (earlier later : Nat) : Repeatable config earlier later environment := by
  have wrote := wrote_of_finished opens loaded earlier
  have same : ∀ path ∈ config.documents,
      (config.build earlier environment).2.files.find path = opened.find path :=
    fun path member => find_eq_of_wrote opens.opens wrote (apart path member)
  have reopens := opens.again wrote (same _ List.mem_cons_self)
  have reloaded : Table.loadFiles (config.build earlier environment).2.files config.load.options
      config.sharedDocuments = .ok shared := by
    rw [← loaded]
    exact Table.loadFiles_congr fun path member => same path (List.mem_cons_of_mem _ member)
  refine ⟨?_, fun path member content found => ?_⟩
  · rw [build_of_finished reopens reloaded, build_of_finished opens loaded]
  · have kept : (config.build earlier environment).2.files.find path = .ok (.file content) := by
      rw [same path member, (keeps_openSink opens.opens).find found]
    refine ⟨kept, ?_⟩
    rw [find_eq_of_wrote reopens.opens (wrote_of_finished reopens reloaded later)
      fun logs => apart path member ((logsInto_iff_of_wrote wrote).mp logs), kept]

/-- With all documents loaded, a document with records is not what it was. -/
theorem not_logsInto_of_repeatable {earlier later : Nat}
    (repeatable : Repeatable config earlier later environment) (member : path ∈ config.documents) :
    ¬config.LogsInto environment.files path := by
  rintro ⟨log, place, destination, logLeads, leads⟩
  have gained := (wrote_of_finished opens loaded earlier).gained opens.opens
  rw [destination] at gained
  obtain ⟨-, ⟨none, -⟩ | ⟨other, otherLeads, appended⟩⟩ := gained
  · cases none
  · obtain rfl := otherLeads.unique logLeads
    obtain ⟨content, found⟩ := exists_of_finished opens loaded member
    exact appended.find_ne (Audit.size_textOfLines_pos _ _) leads found
      (repeatable.documents path member content found).1

theorem completes_of_finished (timestamp : Nat) : config.Completes timestamp environment := by
  rw [Completes, build_of_finished opens loaded]
  cases config.problems (config.assemble primary shared) with
  | nil => exact Or.inl ⟨_, _, rfl⟩
  | cons problem rest => exact Or.inr ⟨_, rfl⟩

end

theorem not_completes_of_early {error : BuildError} {timestamp : Nat} (early : error.IsEarly)
    (failed : (config.build timestamp environment).1 = .error error) :
    ¬config.Completes timestamp environment := by
  rintro (⟨catalog, sink, built⟩ | ⟨problems, refused⟩)
  · rw [failed] at built
    cases built
  · rw [failed] at refused
    cases refused
    exact early problems rfl

/-- Building a catalog is repeatable, exactly unless all documents are loaded and the records
go into the file of one of them. -/
theorem build_repeatable_iff (config : Config) (earlier later : Nat)
    (environment : Environment) :
    Repeatable config earlier later environment ↔
      ¬(config.Completes earlier environment ∧
        ∃ path ∈ config.documents, config.LogsInto environment.files path) := by
  cases config.course environment with
  | refused error early built =>
    have stopped := congrArg Prod.fst (built earlier)
    refine iff_of_true ⟨?_, fun path member content found => ?_⟩
      fun both => not_completes_of_early early stopped both.1
    · simp only [built]
    · simp only [built]
      exact ⟨found, found⟩
  | interrupted primary sink opened error opens failed =>
    have built := build_of_opens opens earlier
    rw [failed] at built
    exact iff_of_true (repeatable_of_interrupted opens failed earlier later) fun both =>
      not_completes_of_early (Table.isEarly_of_loadFiles failed) (congrArg Prod.fst built) both.1
  | finished primary sink opened shared opens loaded =>
    constructor
    · rintro repeatable ⟨-, path, member, logs⟩
      exact not_logsInto_of_repeatable opens loaded repeatable member logs
    · intro apart
      refine repeatable_of_finished opens loaded (fun path member logs => apart ?_) earlier later
      exact ⟨completes_of_finished opens loaded earlier, path, member, logs⟩

/-- A configuration whose records go into its only document. -/
def selfLoggedConfig : Config :=
  { audit := { path := some "strings.en.json" } }

/-- A working directory with that document, which holds one string. -/
def selfLoggedEnvironment : Environment :=
  { files := FileSystem.withFile {} ⟨.working 0, ["strings.en.json"]⟩
      "\x7b\"greeting\":\"Hello\"\x7d".toUTF8 }

/-- Building is not repeatable for each configuration that is allowed: the line about the first
build makes the document unreadable for the second. -/
theorem not_forall_repeatable :
    ¬∀ (config : Config) (earlier later : Nat) (environment : Environment),
      config.validate = .ok () → Repeatable config earlier later environment := by
  intro claim
  have repeatable := claim selfLoggedConfig 0 0 selfLoggedEnvironment (by decide +kernel)
  have first : (selfLoggedConfig.build 0 selfLoggedEnvironment).1.isOk = true := by
    decide +kernel
  have second : (selfLoggedConfig.build 0
      (selfLoggedConfig.build 0 selfLoggedEnvironment).2).1.isOk = false := by
    decide +kernel
  rw [repeatable.outcome, first] at second
  cases second

end Config

end Phrasebook
