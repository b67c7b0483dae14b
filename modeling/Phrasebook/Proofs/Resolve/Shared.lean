/-
This file shows what one more shared table does. The table is looked at last, so it
only answers for keys that no table before it has. A walk goes the same way with it
until the first lookup that failed without it. So an outcome changes exactly when it
was a failed lookup and the new table has the entry that was missed.
-/

import Phrasebook.Catalog
import Phrasebook.Proofs.Resolve.Lockstep

namespace Phrasebook

/-- The table has the entry that was missed. -/
def ResolveError.FilledBy (table : Table) : ResolveError → Prop
  | .keyNotFound key => ∃ path, KeyPath.parse key = .ok path ∧ (table.get? path).isSome
  | .danglingReference _ target => (table.get? target).isSome
  | _ => False

namespace Resolver

variable {resolver : Resolver} {table : Table} {path : KeyPath} {key : String}

/-! ### Lookup -/

theorem lookup_withShared (resolver : Resolver) (table : Table) (path : KeyPath) :
    (resolver.withShared table).lookup path = (resolver.lookup path).or (table.get? path) := by
  rw [lookup, withShared, List.findSome?_append, List.findSome?_singleton]
  rfl

theorem lookup_withShared_of_some {entry : LeafEntry}
    (found : resolver.lookup path = some entry) :
    (resolver.withShared table).lookup path = some entry := by
  rw [lookup_withShared, found]
  rfl

theorem lookup_withShared_of_none (absent : resolver.lookup path = none)
    (empty : ¬(table.get? path).isSome) : (resolver.withShared table).lookup path = none := by
  rw [lookup_withShared, absent, Option.none_or]
  exact Option.not_isSome_iff_eq_none.mp empty

/-! ### Errors and the tables they are about -/

theorem eq_of_resolve_eq_keyNotFound {missing : String}
    (failed : resolver.resolve key = .error (.keyNotFound missing)) : missing = key := by
  rcases resolver.resolve_cases key with absent | ⟨path, found, same⟩
  · rw [absent] at failed
    cases failed
    rfl
  · rw [same] at failed
    exact absurd failed (resolvePath_ne_keyNotFound found missing)

/-- No table of the resolver has an entry that the resolver has missed. -/
theorem not_filledBy_of_resolve {fault : ResolveError}
    (failed : resolver.resolve key = .error fault) (member : table ∈ resolver.tables) :
    ¬fault.FilledBy table := by
  intro filled
  cases fault with
  | keyNotFound missing =>
    obtain ⟨path, parsed, held⟩ := filled
    obtain rfl := eq_of_resolve_eq_keyNotFound failed
    have found : (resolver.lookup path).isSome := by
      rw [lookup, List.findSome?_isSome_iff]
      exact ⟨table, member, held⟩
    rw [resolve_of_parse parsed found] at failed
    exact resolvePath_ne_keyNotFound found _ failed
  | danglingReference holder target =>
    rcases resolver.resolve_cases key with absent | ⟨path, -, same⟩
    · rw [absent] at failed
      cases failed
    · rw [same] at failed
      obtain ⟨-, -, empty⟩ := trueOf_of_visit_start (visit_start_of_resolvePath failed)
      have held : (table.get? target).isSome := filled
      rw [empty table member] at held
      cases held
  | redirectCycle => exact filled
  | expansionLimit => exact filled
  | missingPlaceholder => exact filled

/-! ### Resolution -/

/-- With one more table a walk goes the same way, except behind a lookup that the table fills. -/
theorem followedBy_withShared (resolver : Resolver) (table : Table) :
    resolver.FollowedBy (resolver.withShared table) fun fault => ¬fault.FilledBy table where
  found := lookup_withShared_of_some
  wider := resolver.limits.atMost_self
  unfound := by
    intro key path parsed absent unfilled
    exact lookup_withShared_of_none absent fun held => unfilled ⟨path, parsed, held⟩
  dangling := lookup_withShared_of_none
  tooDeep := fun _ _ _ => rfl
  exhausted := fun _ => rfl

theorem resolve_withShared_of_lasts
    (lasts : Lasts (fun fault => ¬fault.FilledBy table) (resolver.resolve key)) :
    (resolver.withShared table).resolve key = resolver.resolve key :=
  (resolver.followedBy_withShared table).resolve_eq lasts

/-- One more table changes an outcome exactly when it fills what was missed. -/
theorem resolve_withShared_ne_iff :
    (resolver.withShared table).resolve key ≠ resolver.resolve key ↔
      ∃ fault, resolver.resolve key = .error fault ∧ fault.FilledBy table := by
  constructor
  · intro changed
    cases resolved : resolver.resolve key with
    | ok resolution =>
      refine absurd (resolve_withShared_of_lasts ?_) changed
      rw [resolved]
      exact True.intro
    | error fault =>
      refine ⟨fault, rfl, ?_⟩
      by_contra unfilled
      refine changed (resolve_withShared_of_lasts ?_)
      rw [resolved]
      exact unfilled
  · rintro ⟨fault, failed, filled⟩ same
    rw [failed] at same
    have member : table ∈ (resolver.withShared table).tables :=
      List.mem_append_right _ (List.mem_singleton_self table)
    exact not_filledBy_of_resolve same member filled

/-- A shared table that is added only fills gaps: it changes the outcome for a key exactly when
the key was found nowhere and the table has it, or a reference led nowhere and the table has its
target. So resolutions, cycles and used up budgets stay what they are. -/
theorem withShared_fills_gaps (resolver : Resolver) (table : Table) (key : String) :
    ((resolver.withShared table).resolve key ≠ resolver.resolve key ↔
      (resolver.resolve key = .error (.keyNotFound key) ∧
        ∃ path, KeyPath.parse key = .ok path ∧ (table.get? path).isSome) ∨
      ∃ holder target, resolver.resolve key = .error (.danglingReference holder target) ∧
        (table.get? target).isSome) ∧
    ((∃ resolution, resolver.resolve key = .ok resolution) ∨
      (∃ path chain, resolver.resolve key = .error (.redirectCycle path chain)) ∨
      (∃ path limit budget, resolver.resolve key = .error (.expansionLimit path limit budget)) →
        (resolver.withShared table).resolve key = resolver.resolve key) ∧
    ∀ catalog : Catalog, catalog.resolver = resolver →
      (catalog.withShared table).resolve key = (resolver.withShared table).resolve key := by
  refine ⟨?_, ?_, ?_⟩
  · rw [resolve_withShared_ne_iff]
    constructor
    · rintro ⟨fault, failed, filled⟩
      cases fault with
      | keyNotFound missing =>
        obtain rfl := eq_of_resolve_eq_keyNotFound failed
        exact Or.inl ⟨failed, filled⟩
      | danglingReference holder target => exact Or.inr ⟨holder, target, failed, filled⟩
      | redirectCycle => exact filled.elim
      | expansionLimit => exact filled.elim
      | missingPlaceholder => exact filled.elim
    · rintro (⟨failed, filled⟩ | ⟨holder, target, failed, filled⟩)
      · exact ⟨_, failed, filled⟩
      · exact ⟨_, failed, filled⟩
  · intro outcome
    refine resolve_withShared_of_lasts ?_
    rcases outcome with ⟨_, same⟩ | ⟨_, _, same⟩ | ⟨_, _, _, same⟩
    · rw [same]
      exact True.intro
    · rw [same]
      exact not_false
    · rw [same]
      exact not_false
  · rintro catalog rfl
    rfl

end Resolver

end Phrasebook
