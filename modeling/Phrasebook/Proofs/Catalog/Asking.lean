/-
This file compares the two ways to ask for a string, by a text and by a path. The
text is read as a path and looked up before anything is resolved, and only then the
path is resolved as it would have been without a text. The look ahead takes nothing
away and adds nothing: a resolution fails for a key that is nowhere only at its very
start, so it would have failed there too. What differs is the name in the error, which
is the text as it was written and not the spelling of the path.
-/

import Phrasebook.Catalog
import Phrasebook.Proofs.Resolve.Validation
import Phrasebook.Proofs.Table.Order

namespace Phrasebook

/-- The error for someone who asked with this text: a key that is nowhere is named by it. -/
def ResolveError.askedWith (key : String) : ResolveError → ResolveError
  | .keyNotFound _ => .keyNotFound key
  | fault => fault

namespace Resolver

variable {resolver : Resolver} {path : KeyPath}

/-- Resolving a path fails for a key that is nowhere exactly when no table has an entry at the
path, and then the error names the path. -/
theorem resolvePath_eq_keyNotFound_iff {missing : String} :
    resolver.resolvePath path = .error (.keyNotFound missing) ↔
      resolver.lookup path = none ∧ missing = path.dotted := by
  constructor
  · intro failed
    obtain ⟨named, absent⟩ := trueOf_of_visit_start (visit_start_of_resolvePath failed)
    exact ⟨lookup_eq_none_iff.mpr absent, named⟩
  · rintro ⟨absent, rfl⟩
    refine resolvePath_eq_error_iff.mpr ?_
    exact visit_absent List.not_mem_nil (Nat.zero_le _) absent

/-- A path at which there is an entry resolves to something, or fails with an error that does not
depend on how it was asked for. -/
theorem mapError_askedWith_of_isSome (found : (resolver.lookup path).isSome) (key : String) :
    (resolver.resolvePath path).mapError (ResolveError.askedWith key) =
      resolver.resolvePath path := by
  cases resolved : resolver.resolvePath path with
  | ok resolution => rfl
  | error fault =>
    cases fault with
    | keyNotFound missing => exact absurd resolved (resolvePath_ne_keyNotFound found missing)
    | danglingReference | redirectCycle | expansionLimit | missingPlaceholder => rfl

/-- A text that is read as a path resolves like the path, up to the name of a key that is
nowhere. -/
theorem resolve_eq_mapError {key : String} (parsed : KeyPath.parse key = .ok path) :
    resolver.resolve key =
      (resolver.resolvePath path).mapError (ResolveError.askedWith key) := by
  cases found : resolver.lookup path with
  | none =>
    rw [resolve_of_absent parsed found, resolvePath_eq_keyNotFound_iff.mpr ⟨found, rfl⟩]
    rfl
  | some entry =>
    have present : (resolver.lookup path).isSome := by rw [found]; rfl
    rw [resolve_of_parse parsed present, mapError_askedWith_of_isSome present]

end Resolver

/-- A catalog contains a key exactly when resolving it does not fail for a key that is nowhere. -/
theorem Catalog.contains_iff {catalog : Catalog} {key : String} :
    catalog.contains key = true ↔
      ∀ missing, catalog.resolve key ≠ .error (.keyNotFound missing) := by
  unfold contains resolve
  cases parsed : KeyPath.parse key with
  | error fault =>
    have failed : catalog.resolver.resolve key = .error (.keyNotFound key) := by
      rw [Resolver.resolve, parsed]
    simp [failed]
  | ok path =>
    cases found : catalog.resolver.lookup path with
    | none => simp [found, Resolver.resolve_of_absent parsed found]
    | some entry =>
      have present : (catalog.resolver.lookup path).isSome := by rw [found]; rfl
      rw [Resolver.resolve_of_parse parsed present]
      simp [found, Resolver.resolvePath_ne_keyNotFound present]

/-- Asking by a text and by a path agree. A text that is no path is a key that is nowhere, under
the name that was asked for; any other resolves like its path, except that a key that is nowhere
bears this name too and not the spelling of the path. A catalog contains the keys that are
somewhere, and the spelling of a path with an entry in some table resolves like the path and is
somewhere. -/
theorem asking_agrees (resolver : Resolver) (key : String) :
    (resolver.resolve key =
      match KeyPath.parse key with
      | .error _ => .error (.keyNotFound key)
      | .ok path => (resolver.resolvePath path).mapError (ResolveError.askedWith key)) ∧
    (∀ path missing, resolver.resolvePath path = .error (.keyNotFound missing) ↔
      resolver.lookup path = none ∧ missing = path.dotted) ∧
    (∀ catalog : Catalog, catalog.contains key = true ↔
      ∀ missing, catalog.resolve key ≠ .error (.keyNotFound missing)) ∧
    ∀ table ∈ resolver.tables, ∀ path ∈ table.keys,
      resolver.resolve path.dotted = resolver.resolvePath path ∧
        ∀ missing, resolver.resolvePath path ≠ .error (.keyNotFound missing) := by
  refine ⟨?_, fun path missing => Resolver.resolvePath_eq_keyNotFound_iff,
    fun catalog => Catalog.contains_iff, ?_⟩
  · cases parsed : KeyPath.parse key with
    | error fault => rw [Resolver.resolve, parsed]
    | ok path => exact Resolver.resolve_eq_mapError parsed
  · intro table tableMember path member
    have found := Resolver.isSome_lookup_iff.mpr ⟨table, tableMember, member⟩
    exact ⟨Resolver.resolve_of_parse path.parse_dotted found,
      fun missing => Resolver.resolvePath_ne_keyNotFound found missing⟩

theorem asking_agrees_dialogueTable :
    (Resolver.ofTable Table.dialogueTable).resolve "config.step.title" =
      (Resolver.ofTable Table.dialogueTable).resolvePath Table.stepTitle := by
  obtain ⟨-, -, -, listed⟩ := asking_agrees (Resolver.ofTable Table.dialogueTable) "title"
  have member : Table.stepTitle ∈ Table.dialogueTable.keys := by decide +kernel
  exact (listed Table.dialogueTable (List.mem_singleton_self _) Table.stepTitle member).1

end Phrasebook
