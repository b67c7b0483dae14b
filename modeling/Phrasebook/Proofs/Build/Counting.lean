/-
This file says which number of problems building reports. With all documents loaded and
their references followed, the problems in the error and the number in the record are
those that validation finds, so a broken path counts once for every table with an entry
there. The same string broken in two documents is two problems.
-/

import Phrasebook.Proofs.Build.Course
import Phrasebook.Proofs.Build.Validated
import Phrasebook.Proofs.Resolve.Problems

namespace Phrasebook

namespace Config

variable {config : Config} {environment : Environment} {timestamp : Nat}
  {problems : List ResolveError}

/-- References are only followed when all documents are loaded. -/
theorem exists_of_validation
    (failed : (config.build timestamp environment).1 = .error (.validation problems)) :
    ∃ primary sink opened shared, config.Opens environment.files primary sink opened ∧
      Table.loadFiles opened config.load.options config.sharedDocuments = .ok shared ∧
      config.problems (config.assemble primary shared) = problems ∧ problems ≠ [] := by
  cases config.course environment with
  | refused error early built =>
    rw [built] at failed
    cases failed
    exact absurd rfl (early problems)
  | interrupted primary sink opened error opens stopped =>
    rw [build_of_opens opens, stopped] at failed
    cases failed
    exact absurd rfl (Table.isEarly_of_loadFiles stopped problems)
  | finished primary sink opened shared opens loaded =>
    rw [build_of_finished opens loaded] at failed
    simp only at failed
    split at failed
    · cases failed
    · rename_i some
      cases failed
      exact ⟨primary, sink, opened, shared, opens, loaded, rfl,
        fun none => some (List.isEmpty_iff.mpr none)⟩

/-- The problems are looked for by validation, if the configuration asks for it. -/
theorem length_problems (config : Config) (catalog : Catalog) :
    (config.problems catalog).length =
      if config.load.validateReferences then catalog.resolver.brokenEntries else 0 := by
  rw [problems]
  split
  · exact catalog.resolver.length_validate
  · rfl

end Config

/-- Validation reports the error of each listed path that does not resolve, table by table. So
the number of problems is that of the broken paths, each counted for every table with an entry
there; it is never less than the number of broken paths, and it is this number exactly when none
of them is in two tables. Building reports the same, if references are followed: it is the number
of problems in the error that refuses the catalog, and the number in the record. -/
theorem problems_counted_by_table :
    (∀ resolver : Resolver,
      List.Forall₂ (fun path fault => resolver.resolvePath path = .error fault)
        (resolver.listed.filter resolver.breaks) resolver.validate ∧
      (∀ path, path ∈ resolver.broken ↔ (∃ table ∈ resolver.tables, path ∈ table.keys) ∧
        ∃ fault, resolver.resolvePath path = .error fault) ∧
      resolver.validate.length = ∑ path ∈ resolver.broken, resolver.holders path ∧
      resolver.broken.card ≤ resolver.validate.length ∧
      (resolver.validate.length = resolver.broken.card ↔
        ∀ path ∈ resolver.broken, resolver.holders path = 1)) ∧
    ∀ (config : Config) (timestamp : Nat) (environment : Environment),
      (∀ problems, (config.build timestamp environment).1 = .error (.validation problems) →
        ∃ primary sink opened shared, config.Opens environment.files primary sink opened ∧
          Table.loadFiles opened config.load.options config.sharedDocuments = .ok shared ∧
          problems = (config.assemble primary shared).resolver.validate ∧
          problems.length = (config.assemble primary shared).resolver.brokenEntries) ∧
      ∀ primary sink opened shared, config.Opens environment.files primary sink opened →
        Table.loadFiles opened config.load.options config.sharedDocuments = .ok shared →
        environment.Wrote sink
          [((config.assemble primary shared).loadEvent
            (if config.load.validateReferences then
              (config.assemble primary shared).resolver.brokenEntries else 0)).line timestamp]
          (config.build timestamp environment).2 := by
  refine ⟨fun resolver => ?_, fun config timestamp environment => ⟨?_, ?_⟩⟩
  · rw [resolver.length_validate]
    exact ⟨resolver.validate_reports, fun path => Resolver.mem_broken_iff, rfl,
      resolver.card_broken_le, Resolver.brokenEntries_eq_card_iff⟩
  · intro problems failed
    obtain ⟨primary, sink, opened, shared, opens, loaded, rfl, nonempty⟩ :=
      Config.exists_of_validation failed
    have followed : config.load.validateReferences = true := by
      by_contra unfollowed
      exact nonempty (if_neg unfollowed)
    refine ⟨primary, sink, opened, shared, opens, loaded, if_pos followed, ?_⟩
    rw [Config.length_problems, if_pos followed]
  · intro primary sink opened shared opens loaded
    rw [← Config.length_problems]
    exact Config.wrote_of_finished opens loaded timestamp

/-- Two documents with the same string, which refers to itself. -/
def circularEnvironment : Environment :=
  { files := ["en.json", "common.json"].foldl (fun files name =>
      files.withFile ⟨.working 0, [name]⟩ "\x7b\"loop\":\"[%key:loop%]\"\x7d".toUTF8) {} }

/-- The configuration with both documents. -/
def circularConfig : Config :=
  { sources := { primary := "en.json", shared := ["common.json"] } }

theorem problems_counted_by_table_circular :
    ∃ primary sink opened shared,
      circularConfig.Opens circularEnvironment.files primary sink opened ∧
      (circularConfig.assemble primary shared).resolver.brokenEntries = 2 ∧
      circularEnvironment.Wrote sink
        [((circularConfig.assemble primary shared).loadEvent 2).line 0]
        (circularConfig.build 0 circularEnvironment).2 := by
  have twice : (match (circularConfig.build 0 circularEnvironment).1 with
      | .error (.validation problems) => problems.length
      | _ => 0) = 2 := by decide +kernel
  obtain ⟨reported, recorded⟩ := problems_counted_by_table.2 circularConfig 0 circularEnvironment
  split at twice
  · rename_i problems failed
    obtain ⟨primary, sink, opened, shared, opens, loaded, -, counted⟩ := reported problems failed
    have wrote := recorded primary sink opened shared opens loaded
    rw [← counted, twice] at wrote
    exact ⟨primary, sink, opened, shared, opens, counted.symm.trans twice, wrote⟩
  · cases twice

/-- Not every broken path is reported once: one that is in both tables is reported twice. -/
theorem not_forall_problems_distinct :
    ¬∀ (documents : List ByteArray) (options : LoadOptions) (resolver : Resolver),
      List.Forall₂ (fun bytes table => Table.load bytes options = .ok table) documents
        resolver.tables → resolver.validate.length = resolver.broken.card := by
  intro claim
  have listed : (Table.load "\x7b\"loop\":\"[%key:loop%]\"\x7d".toUTF8 {}).map (fun table =>
      let resolver : Resolver := { tables := [table, table] }
      (resolver.validate.length, resolver.broken.card)) = .ok (2, 1) := by decide +kernel
  obtain ⟨table, loaded, counts⟩ := exists_of_map_eq_ok listed
  have equal := claim _ {} { tables := [table, table] } (.cons loaded (.cons loaded .nil))
  exact absurd ((congrArg Prod.fst counts).symm.trans
    (equal.trans (congrArg Prod.snd counts))) (by decide)

end Phrasebook
