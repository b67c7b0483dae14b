/-
This file shows what wider limits do. A walk goes the same way under wider limits
until a narrower one stops it, and limits stop it in two ways: a budget is used up, or
a key lies too deep. The second is reported like a cycle, but the chain it names has
no key twice, whereas a real cycle ends with a key that is open. So only these two
outcomes can change, and all others are the same under any wider limits.
-/

import Phrasebook.Proofs.Resolve.Lockstep

namespace Phrasebook

/-- No wider limits make the error go away: it is none of a budget, and a cycle comes back to a
key. -/
def ResolveError.Lasting : ResolveError → Prop
  | .redirectCycle _ chain => ¬chain.Nodup
  | .expansionLimit _ _ _ => False
  | _ => True

namespace Resolver

variable {tables : List Table} {narrow wide : Limits} {key : String}

/-- Under wider limits a walk goes the same way, except behind an error of narrower ones. -/
theorem followedBy_of_atMost (tables : List Table) (atMost : narrow.AtMost wide) :
    (Resolver.mk tables narrow).FollowedBy (Resolver.mk tables wide) ResolveError.Lasting where
  found := id
  wider := atMost
  unfound := fun _ absent _ => absent
  dangling := fun absent _ => absent
  tooDeep := by
    intro walk key distinct fresh lasts
    refine absurd ?_ lasts
    rw [← List.concat_eq_append, List.nodup_concat, List.mem_reverse, List.nodup_reverse]
    exact ⟨fresh, distinct⟩
  exhausted := fun lasts => lasts.elim

theorem resolve_of_atMost (atMost : narrow.AtMost wide)
    (lasts : Lasts ResolveError.Lasting ((Resolver.mk tables narrow).resolve key)) :
    (Resolver.mk tables wide).resolve key = (Resolver.mk tables narrow).resolve key :=
  (followedBy_of_atMost tables atMost).resolve_eq lasts

/-- A cycle that comes back to no key is one of depth: its chain is as long as the limit lets it
grow. -/
theorem length_of_resolve_eq_redirectCycle {resolver : Resolver} {path : KeyPath}
    {chain : List KeyPath} (failed : resolver.resolve key = .error (.redirectCycle path chain))
    (distinct : chain.Nodup) : chain.length = resolver.limits.maxRedirectDepth + 2 := by
  rcases resolver.resolve_cases key with absent | ⟨start, -, same⟩
  · rw [absent] at failed
    cases failed
  · rw [same] at failed
    obtain ⟨-, -, -, -, ⟨last, ends, member⟩ | deep⟩ :=
      trueOf_of_visit_start (visit_start_of_resolvePath failed)
    · obtain ⟨earlier, rfl⟩ := List.getLast?_eq_some_iff.mp ends
      rw [List.dropLast_concat] at member
      exact absurd rfl ((List.nodup_append.mp distinct).2.2 last member last (by simp))
    · exact deep

/-- Wider limits are monotone: resolutions, keys that are found nowhere, references that lead
nowhere, and chains that come back to a key stay what they are. What can change is an error of a
budget, or a chain without repetition, which is one that went as deep as the limit allows. -/
theorem resolve_monotone (tables : List Table) (narrow wide : Limits)
    (atMost : narrow.AtMost wide) (key : String) :
    ((∃ resolution, (Resolver.mk tables narrow).resolve key = .ok resolution) ∨
      (∃ missing, (Resolver.mk tables narrow).resolve key = .error (.keyNotFound missing)) ∨
      (∃ holder target, (Resolver.mk tables narrow).resolve key =
        .error (.danglingReference holder target)) ∨
      (∃ path chain, (Resolver.mk tables narrow).resolve key =
        .error (.redirectCycle path chain) ∧ ¬chain.Nodup) →
      (Resolver.mk tables wide).resolve key = (Resolver.mk tables narrow).resolve key) ∧
    ((Resolver.mk tables wide).resolve key ≠ (Resolver.mk tables narrow).resolve key →
      (∃ path limit budget, (Resolver.mk tables narrow).resolve key =
        .error (.expansionLimit path limit budget)) ∨
      ∃ path chain, (Resolver.mk tables narrow).resolve key =
        .error (.redirectCycle path chain) ∧ chain.Nodup ∧
          chain.length = narrow.maxRedirectDepth + 2) := by
  constructor
  · intro outcome
    refine resolve_of_atMost atMost ?_
    rcases outcome with ⟨_, same⟩ | ⟨_, same⟩ | ⟨_, _, same⟩ | ⟨_, _, same, repeats⟩
    · rw [same]
      exact True.intro
    · rw [same]
      exact True.intro
    · rw [same]
      exact True.intro
    · rw [same]
      exact repeats
  · intro changed
    have passing := mt (resolve_of_atMost atMost) changed
    cases resolved : (Resolver.mk tables narrow).resolve key with
    | ok resolution =>
      rw [resolved] at passing
      exact absurd True.intro passing
    | error fault =>
      rw [resolved] at passing
      cases fault with
      | expansionLimit path limit budget => exact Or.inl ⟨path, limit, budget, rfl⟩
      | redirectCycle path chain =>
        have distinct : chain.Nodup := not_not.mp passing
        exact Or.inr ⟨path, chain, rfl, distinct,
          length_of_resolve_eq_redirectCycle resolved distinct⟩
      | keyNotFound => exact absurd True.intro passing
      | danglingReference => exact absurd True.intro passing
      | missingPlaceholder => exact absurd True.intro passing

/-- The entry that refers to itself is a cycle under limits that allow a single reference, so it
is one under the usual limits. -/
theorem resolve_monotone_loop :
    Limits.AtMost ⟨1, 2, 0⟩ {} ∧
      (Resolver.mk [loopTable] ⟨1, 2, 0⟩).resolve "loop" =
        .error (.redirectCycle loop [loop, loop]) ∧
      (Resolver.mk [loopTable] {}).resolve "loop" =
        .error (.redirectCycle loop [loop, loop]) := by
  have atMost : Limits.AtMost ⟨1, 2, 0⟩ {} := ⟨by decide, by decide, by decide⟩
  have cyclic : (Resolver.mk [loopTable] ⟨1, 2, 0⟩).resolve "loop" =
      .error (.redirectCycle loop [loop, loop]) := by decide +kernel
  have unchanged := (resolve_monotone [loopTable] _ _ atMost "loop").1
    (Or.inr (Or.inr (Or.inr ⟨loop, [loop, loop], cyclic, by decide⟩)))
  exact ⟨atMost, cyclic, unchanged.trans cyclic⟩

end Resolver

end Phrasebook
