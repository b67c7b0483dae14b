/-
This file counts what validation finds. Validation goes through the tables one after
the other and resolves each path that a table lists, and it resolves it through all
the tables. A path that does not resolve is therefore reported by every table that
has an entry there, each time with the same error: the number of problems is the
number of broken paths, each counted once for every table that lists it.
-/

import Mathlib.Algebra.Order.BigOperators.Group.Finset
import Phrasebook.Proofs.Resolve.Validation
import Phrasebook.Proofs.Table.Order

namespace Phrasebook

/-- A table lists no path twice. -/
theorem Table.nodup_keys (table : Table) : table.keys.Nodup := by
  rw [keys, List.Nodup, List.pairwise_map]
  refine table.entries_pairwise.imp fun {first second} smaller same => ?_
  have equal : compare second.1 second.1 = .eq := Std.compare_self (a := second.1.segments)
  rw [same, equal] at smaller
  cases smaller

namespace Resolver

variable {resolver : Resolver} {path : KeyPath}

/-! ### Broken paths -/

/-- The error that resolving the path fails with, if it does. -/
def fault? (resolver : Resolver) (path : KeyPath) : Option ResolveError :=
  match resolver.resolvePath path with
  | .error fault => some fault
  | .ok _ => none

theorem fault?_eq_some_iff {fault : ResolveError} :
    resolver.fault? path = some fault ↔ resolver.resolvePath path = .error fault := by
  unfold fault?
  cases resolver.resolvePath path <;> simp

/-- Whether resolving the path fails. -/
def breaks (resolver : Resolver) (path : KeyPath) : Bool :=
  (resolver.fault? path).isSome

theorem breaks_iff :
    resolver.breaks path = true ↔ ∃ fault, resolver.resolvePath path = .error fault := by
  rw [breaks, Option.isSome_iff_exists]
  exact exists_congr fun fault => fault?_eq_some_iff

/-- The paths that the tables list, table by table. -/
def listed (resolver : Resolver) : List KeyPath :=
  resolver.tables.flatMap Table.keys

/-- The paths at which some table has an entry and that do not resolve. -/
def broken (resolver : Resolver) : Finset KeyPath :=
  (resolver.listed.filter resolver.breaks).toFinset

/-- How many tables have an entry at the path. -/
def holders (resolver : Resolver) (path : KeyPath) : Nat :=
  resolver.tables.countP fun table => (table.get? path).isSome

/-- How many entries are at broken paths, those of all tables together. -/
def brokenEntries (resolver : Resolver) : Nat :=
  ∑ path ∈ resolver.broken, resolver.holders path

theorem mem_listed_iff : path ∈ resolver.listed ↔ ∃ table ∈ resolver.tables, path ∈ table.keys :=
  List.mem_flatMap

theorem mem_broken_iff :
    path ∈ resolver.broken ↔ (∃ table ∈ resolver.tables, path ∈ table.keys) ∧
      ∃ fault, resolver.resolvePath path = .error fault := by
  rw [broken, List.mem_toFinset, List.mem_filter, mem_listed_iff, breaks_iff]

/-- A path is listed as often as tables have an entry there. -/
theorem count_listed (resolver : Resolver) (path : KeyPath) :
    resolver.listed.count path = resolver.holders path := by
  rw [listed, holders]
  induction resolver.tables with
  | nil => rfl
  | cons table rest inductionHypothesis =>
    rw [List.flatMap_cons, List.count_append, List.countP_cons, inductionHypothesis,
      Nat.add_comm]
    congr 1
    split
    · rename_i found
      exact List.count_eq_one_of_mem table.nodup_keys (Table.mem_keys_iff.mpr found)
    · rename_i absent
      exact List.count_eq_zero.mpr fun member => absent (Table.mem_keys_iff.mp member)

/-! ### What is reported -/

/-- The problems are the errors of the listed paths that do not resolve, in their order. -/
theorem validate_reports (resolver : Resolver) :
    List.Forall₂ (fun path fault => resolver.resolvePath path = .error fault)
      (resolver.listed.filter resolver.breaks) resolver.validate := by
  have reported : resolver.validate = resolver.listed.filterMap resolver.fault? := by
    rw [listed, List.filterMap_flatMap]
    rfl
  rw [reported]
  induction resolver.listed with
  | nil => exact .nil
  | cons path rest inductionHypothesis =>
    cases failed : resolver.fault? path with
    | none =>
      have sound : ¬resolver.breaks path = true := by
        rw [breaks, failed]
        decide
      rw [List.filterMap_cons_none failed, List.filter_cons_of_neg sound]
      exact inductionHypothesis
    | some fault =>
      have error := fault?_eq_some_iff.mp failed
      rw [List.filterMap_cons_some failed, List.filter_cons_of_pos (breaks_iff.mpr ⟨fault, error⟩)]
      exact .cons error inductionHypothesis

/-- Each broken path counts for every table that has an entry there. -/
theorem length_validate (resolver : Resolver) :
    resolver.validate.length = resolver.brokenEntries := by
  rw [← resolver.validate_reports.length_eq, ← List.sum_toFinset_count_eq_length, brokenEntries,
    broken]
  refine Finset.sum_congr rfl fun path member => ?_
  have fails := (List.mem_filter.mp (List.mem_toFinset.mp member)).2
  rw [List.count_filter fails, count_listed]

theorem holders_pos_of_mem_broken (member : path ∈ resolver.broken) :
    0 < resolver.holders path := by
  obtain ⟨⟨table, tableMember, listed⟩, -⟩ := mem_broken_iff.mp member
  exact List.countP_pos_iff.mpr ⟨table, tableMember, Table.mem_keys_iff.mp listed⟩

/-- No broken path goes unreported. -/
theorem card_broken_le (resolver : Resolver) :
    resolver.broken.card ≤ resolver.brokenEntries := by
  rw [brokenEntries, Finset.card_eq_sum_ones]
  exact Finset.sum_le_sum fun path member => holders_pos_of_mem_broken member

/-- Each broken path is reported once exactly when none of them is in two tables. -/
theorem brokenEntries_eq_card_iff :
    resolver.brokenEntries = resolver.broken.card ↔
      ∀ path ∈ resolver.broken, resolver.holders path = 1 := by
  rw [brokenEntries, Finset.card_eq_sum_ones, eq_comm,
    Finset.sum_eq_sum_iff_of_le fun path member => holders_pos_of_mem_broken member]
  simp only [eq_comm]

end Resolver

end Phrasebook
