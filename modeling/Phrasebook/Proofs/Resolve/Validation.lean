/-
This file shows what validation is good for. Validation resolves the paths that the
tables list, but people ask for keys of any text. Every key that some table has an
entry at is listed by that table, and every listed path is a key when it is written
with dots, so validation finds nothing exactly when no key whatever fails for
another reason than being nowhere.
-/

import Phrasebook.Proofs.KeyPath.RoundTrip
import Phrasebook.Proofs.Resolve.Failure
import Phrasebook.Proofs.Table.Enumeration

namespace Phrasebook

namespace Resolver

variable {resolver : Resolver} {path : KeyPath}

theorem isSome_lookup_iff :
    (resolver.lookup path).isSome ↔ ∃ table ∈ resolver.tables, path ∈ table.keys := by
  simp only [lookup, List.findSome?_isSome_iff, Table.mem_keys_iff]

/-- Validation finds nothing exactly when every path with an entry resolves. -/
theorem validate_eq_nil_iff :
    resolver.validate = [] ↔ ∀ path, (resolver.lookup path).isSome →
      ∃ resolution, resolver.resolvePath path = .ok resolution := by
  unfold validate
  simp only [List.flatMap_eq_nil_iff, List.filterMap_eq_nil_iff]
  constructor
  · intro listed path found
    obtain ⟨table, tableMember, member⟩ := isSome_lookup_iff.mp found
    have unreported := listed table tableMember path member
    split at unreported
    · cases unreported
    · rename_i resolution resolved
      exact ⟨resolution, resolved⟩
  · intro resolves table tableMember path member
    have found := isSome_lookup_iff.mpr ⟨table, tableMember, member⟩
    obtain ⟨resolution, resolved⟩ := resolves path found
    rw [resolved]

/-! ### Keys -/

theorem resolve_of_parse {key : String} (parsed : KeyPath.parse key = .ok path)
    (found : (resolver.lookup path).isSome) :
    resolver.resolve key = resolver.resolvePath path := by
  have present : ¬(resolver.lookup path).isNone = true := by
    rw [Option.isNone_iff_eq_none]
    exact Option.isSome_iff_ne_none.mp found
  rw [resolve, parsed]
  exact if_neg present

/-- A key of a path without an entry is reported as it was given. -/
theorem resolve_of_absent {key : String} (parsed : KeyPath.parse key = .ok path)
    (absent : resolver.lookup path = none) : resolver.resolve key = .error (.keyNotFound key) := by
  rw [resolve, parsed]
  exact if_pos (Option.isNone_iff_eq_none.mpr absent)

/-- A key resolves like a path with an entry, or it is not found. -/
theorem resolve_cases (resolver : Resolver) (key : String) :
    resolver.resolve key = .error (.keyNotFound key) ∨
      ∃ path, (resolver.lookup path).isSome ∧
        resolver.resolve key = resolver.resolvePath path := by
  cases parsed : KeyPath.parse key with
  | error fault =>
    rw [resolve, parsed]
    exact Or.inl rfl
  | ok path =>
    cases found : resolver.lookup path with
    | none => exact Or.inl (resolve_of_absent parsed found)
    | some entry =>
      have present : (resolver.lookup path).isSome := by rw [found]; rfl
      exact Or.inr ⟨path, present, resolve_of_parse parsed present⟩

/-- Validation finds nothing exactly when each key resolves or is not found. -/
theorem validate_eq_nil_iff_resolve :
    resolver.validate = [] ↔ ∀ key, (∃ resolution, resolver.resolve key = .ok resolution) ∨
      ∃ missing, resolver.resolve key = .error (.keyNotFound missing) := by
  rw [validate_eq_nil_iff]
  constructor
  · intro resolves key
    rcases resolver.resolve_cases key with absent | ⟨path, found, same⟩
    · exact Or.inr ⟨key, absent⟩
    · rw [same]
      exact Or.inl (resolves path found)
  · intro each path found
    have same := resolve_of_parse path.parse_dotted found
    rcases each path.dotted with resolved | ⟨missing, failed⟩
    · rw [same] at resolved
      exact resolved
    · rw [same] at failed
      exact absurd failed (resolvePath_ne_keyNotFound found missing)

end Resolver

end Phrasebook
