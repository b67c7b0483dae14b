/-
This file follows the records of a whole run: a catalog is built, and if that succeeds
any number of requests for texts is served, with keys and values that callers chose. What
is recorded is read off from what building and each request come to. The destination of
audit records then has these records behind what it held, each on a line of its own, and
nothing else has changed. As no record has a line feed in it, what was added is cut at its
line feeds into exactly these records.
-/

import Phrasebook.Proofs.Audit.Lines
import Phrasebook.Proofs.Build.Course
import Phrasebook.Proofs.File.Leading

namespace Phrasebook

/-! ### Records -/

/-- An event at the time at which it is recorded. -/
structure Audit.Record where
  timestamp : Nat
  event : Event

/-- The record without the line feed that ends it. -/
def Audit.Record.line (record : Record) : String :=
  record.event.line record.timestamp

/-- A call for the text of a key, at a time. -/
structure Catalog.Request where
  key : String
  values : Values
  timestamp : Nat

namespace Catalog

/-- What is recorded of a request: why there is no text, if there is none. -/
def record? (catalog : Catalog) (request : Request) : Option Audit.Record :=
  match catalog.render request.key request.values with
  | .ok _ => none
  | .error cause => some ⟨request.timestamp, .renderFallback request.key cause⟩

/-- What is recorded of requests. -/
def recordsOf (catalog : Catalog) (requests : List Request) : List Audit.Record :=
  requests.filterMap catalog.record?

/-- The environment after requests were served one after another. -/
def serve (catalog : Catalog) (sink : Audit.Sink) :
    List Request → Environment → Environment
  | [], environment => environment
  | request :: rest, environment =>
    catalog.serve sink rest
      (catalog.renderRecorded sink request.key request.values request.timestamp environment).2

end Catalog

namespace Config

/-- The environment after a catalog was built at a time and, if there is one, requests were
served. -/
def run (config : Config) (timestamp : Nat) (requests : List Catalog.Request)
    (environment : Environment) : Environment :=
  match config.build timestamp environment with
  | (.error _, after) => after
  | (.ok (catalog, sink), after) => catalog.serve sink requests after

/-- The records of a run, by what building came to. -/
inductive Records (config : Config) (timestamp : Nat) (requests : List Catalog.Request)
    (files : FileSystem) : Except BuildError (Catalog × Audit.Sink) → List Audit.Record → Prop
  /-- Building and then each request that falls back is recorded. -/
  | built (catalog : Catalog) (sink : Audit.Sink) :
      Records config timestamp requests files (.ok (catalog, sink))
        (⟨timestamp, catalog.loadEvent 0⟩ :: catalog.recordsOf requests)
  /-- If only references are at fault, the record of building has their number. -/
  | faulty (primary : Table) (sink : Audit.Sink) (opened : FileSystem) (shared : List Table)
      (problems : List ResolveError)
      (opens : config.Opens files primary sink opened)
      (loaded : Table.loadFiles opened config.load.options config.sharedDocuments = .ok shared)
      (found : config.problems (config.assemble primary shared) = problems) :
      Records config timestamp requests files (.error (.validation problems))
        [⟨timestamp, (config.assemble primary shared).loadEvent problems.length⟩]
  /-- Without all documents nothing is recorded. -/
  | failed (error : BuildError) (early : error.IsEarly) :
      Records config timestamp requests files (.error error) []

end Config

/-! ### Where records go -/

namespace Environment

variable {before after : Environment} {sink : Audit.Sink} {lines : List String}

theorem lineBytes_eq (lines : List String) :
    lineBytes lines = (Audit.textOfLines lines).toUTF8 := by
  induction lines using List.reverseRecOn with
  | nil => rfl
  | append_singleton earlier line inductionHypothesis =>
    have joined : Audit.textOfLines (earlier ++ [line]) =
        Audit.textOfLines earlier ++ (line ++ "\n") := by
      simp [Audit.textOfLines]
    rw [lineBytes_concat, inductionHypothesis, joined]
    exact String.toByteArray_append.symm

/-- Afterwards the destination has these lines behind what it held, each ended by a line feed,
and nothing else has changed. For no lines at all the file need not have been opened. -/
def Gained (destination : AuditDestination) (lines : List String)
    (before after : Environment) : Prop :=
  match destination with
  | .disabled => after = before
  | .standardError => after = { before with standardError := before.standardError ++ lines }
  | .file log =>
    after.standardError = before.standardError ∧
      (lines = [] ∧ after.files = before.files ∨
        ∃ place, before.files.LeadsTo log place ∧
          before.files.Appended place (Audit.textOfLines lines).toUTF8 after.files)

theorem Gained.refl (destination : AuditDestination) (environment : Environment) :
    Gained destination [] environment environment := by
  cases destination with
  | disabled => rfl
  | standardError => rw [Gained, List.append_nil]
  | file log => exact ⟨rfl, Or.inl ⟨rfl, rfl⟩⟩

/-- Lines that are written to the sink of a configuration go to its destination. -/
theorem Wrote.gained {config : Config} {opened : FileSystem}
    (opens : config.openSink before.files = .ok (sink, opened))
    (wrote : before.Wrote sink lines after) :
    before.Gained config.auditDestination lines after := by
  rcases Config.openSink_cases opens with ⟨destination, rfl, -⟩ | ⟨destination, rfl, -⟩ |
    ⟨log, place, destination, rfl, found⟩
  · rw [destination]
    exact wrote
  · rw [destination]
    exact wrote
  · obtain ⟨unchanged, appended⟩ := wrote
    rw [lineBytes_eq] at appended
    rw [destination]
    exact ⟨unchanged, Or.inr ⟨place, FileSystem.leadsTo_of_openToAppend found, appended⟩⟩

end Environment

/-! ### Serving requests -/

namespace Catalog

variable {catalog : Catalog} {sink : Audit.Sink} {before after : Environment}
  {records : List Audit.Record}

/-- Serving one request writes its record behind the others. -/
theorem wrote_renderRecorded (request : Request)
    (wrote : before.Wrote sink (records.map Audit.Record.line) after) :
    before.Wrote sink ((records ++ (catalog.record? request).toList).map Audit.Record.line)
      (catalog.renderRecorded sink request.key request.values request.timestamp after).2 := by
  have served : (catalog.renderRecorded sink request.key request.values request.timestamp
      after).2 = after.recordAll sink request.timestamp
        (catalog.renderOrFallback request.key request.values).2.toList := rfl
  rw [served, renderOrFallback_event, record?]
  cases catalog.render request.key request.values with
  | ok text =>
    rw [Option.toList_none, List.append_nil]
    exact wrote
  | error cause =>
    rw [Option.toList_some, List.map_append]
    exact wrote.writeLine _

/-- Serving requests writes their records in their order. -/
theorem wrote_serve (requests : List Request)
    (wrote : before.Wrote sink (records.map Audit.Record.line) after) :
    before.Wrote sink ((records ++ catalog.recordsOf requests).map Audit.Record.line)
      (catalog.serve sink requests after) := by
  induction requests generalizing records after with
  | nil =>
    rw [recordsOf, List.filterMap_nil, List.append_nil]
    exact wrote
  | cons request rest inductionHypothesis =>
    have onward := inductionHypothesis (catalog.wrote_renderRecorded request wrote)
    have split : catalog.recordsOf (request :: rest) =
        (catalog.record? request).toList ++ catalog.recordsOf rest := by
      rw [recordsOf, List.filterMap_cons]
      cases catalog.record? request <;> rfl
    rw [split, ← List.append_assoc]
    exact onward

end Catalog

/-! ### The run -/

namespace Config

variable {config : Config} {environment : Environment}

/-- The records of a run, which are written to the destination. -/
theorem gained_run (config : Config) (timestamp : Nat) (requests : List Catalog.Request)
    (environment : Environment) :
    ∃ records,
      config.Records timestamp requests environment.files
          (config.build timestamp environment).1 records ∧
        environment.Gained config.auditDestination (records.map Audit.Record.line)
          (config.run timestamp requests environment) := by
  cases config.course environment with
  | refused error early built =>
    refine ⟨[], ?_, ?_⟩
    · rw [built]
      exact .failed error early
    · rw [run, built]
      exact Environment.Gained.refl _ _
  | interrupted primary sink opened error opens failed =>
    have built := build_of_opens opens timestamp
    rw [failed] at built
    refine ⟨[], ?_, ?_⟩
    · rw [built]
      exact .failed error (Table.isEarly_of_loadFiles failed)
    · rw [run, built]
      exact (wrote_openSink opens.opens).gained opens.opens
  | finished primary sink opened shared opens loaded =>
    have built := build_of_finished opens loaded timestamp
    have wrote := wrote_of_finished opens loaded timestamp
    rw [built] at wrote
    cases found : config.problems (config.assemble primary shared) with
    | nil =>
      rw [found] at built wrote
      let first : Audit.Record := ⟨timestamp, (config.assemble primary shared).loadEvent 0⟩
      have served : environment.Wrote sink
          (([first] ++ (config.assemble primary shared).recordsOf requests).map
            Audit.Record.line)
          ((config.assemble primary shared).serve sink requests _) :=
        Catalog.wrote_serve requests wrote
      refine ⟨first :: (config.assemble primary shared).recordsOf requests, ?_, ?_⟩
      · rw [built]
        exact .built _ sink
      · rw [run, built]
        exact served.gained opens.opens
    | cons problem rest =>
      rw [found] at built wrote
      refine ⟨[⟨timestamp, (config.assemble primary shared).loadEvent
        (problem :: rest).length⟩], ?_, ?_⟩
      · rw [built]
        exact .faulty primary sink opened shared _ opens loaded found
      · rw [run, built]
        exact wrote.gained opens.opens

/-- Whatever a run comes to and whatever texts its requests have, its records are what the
destination gains: each of them on one line, in their order, and nothing else changes. -/
theorem run_appends_records (config : Config) (timestamp : Nat)
    (requests : List Catalog.Request) (environment : Environment) :
    ∃ records,
      config.Records timestamp requests environment.files
          (config.build timestamp environment).1 records ∧
        environment.Gained config.auditDestination (records.map Audit.Record.line)
          (config.run timestamp requests environment) ∧
        (∀ record ∈ records, '\n' ∉ record.line.toList) ∧
        (Audit.textOfLines (records.map Audit.Record.line)).toList.splitOn '\n' =
          (records.map Audit.Record.line).map String.toList ++ [[]] := by
  obtain ⟨records, recorded, gained⟩ := config.gained_run timestamp requests environment
  have unbroken : ∀ record ∈ records, '\n' ∉ record.line.toList :=
    fun record _ => record.event.newline_not_mem_line record.timestamp
  refine ⟨records, recorded, gained, unbroken, Audit.splitOn_textOfLines ?_⟩
  rw [List.forall_mem_map]
  exact unbroken

end Config

end Phrasebook
