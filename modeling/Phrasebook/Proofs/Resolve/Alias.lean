/-
This file shows what an entry is worth that refers to another one and holds nothing
else. Its unfolding is that of the other entry with one node on top, so it shows the
same, and resolving it takes one reference and one visit more. Every path that some
string can refer to may be given another name in this way, by an entry that holds the
spelling of the path between the brackets of a reference.
-/

import Phrasebook.Proofs.Load.WellFormed
import Phrasebook.Proofs.Resolve.Widening
import Phrasebook.Proofs.Table.Order
import Phrasebook.Proofs.Template.Mention

namespace Phrasebook

/-- What is left of limits behind a reference. -/
def Limits.behindReference (limits : Limits) : Limits :=
  { limits with
    maxRedirectDepth := limits.maxRedirectDepth - 1
    maxExpansions := limits.maxExpansions - 1 }

theorem Limits.behindReference_atMost (limits : Limits) :
    limits.behindReference.AtMost limits :=
  ⟨Nat.sub_le _ _, Nat.sub_le _ _, le_rfl⟩

/-! ### One node on top -/

namespace Unfolding

variable {child : Unfolding} {holder target : KeyPath} {limits : Limits}

theorem height_redirect : (node holder (.redirect target) [child]).height = child.height + 1 :=
  Nat.max_zero _

theorem size_redirect : (node holder (.redirect target) [child]).size = child.size + 1 := by
  rw [size, keys, keysOfAll, keysOfAll, List.append_nil, List.length_cons, size]

theorem size_pos (tree : Unfolding) : 0 < tree.size := by
  cases tree with
  | node key entry children => exact Nat.succ_pos _

/-- The node on top takes one reference and one visit of the limits. -/
theorem within_redirect_iff :
    (node holder (.redirect target) [child]).Within limits ↔
      0 < limits.maxRedirectDepth ∧ child.Within limits.behindReference := by
  have visited := child.size_pos
  constructor
  · rintro ⟨height, size, bytes⟩
    rw [height_redirect] at height
    rw [size_redirect] at size
    rw [Unfolding.bytes, fragments_redirect] at bytes
    exact ⟨Nat.zero_lt_of_lt height, Nat.le_sub_one_of_lt height, Nat.le_sub_one_of_lt size, bytes⟩
  · rintro ⟨positive, height, size, bytes⟩
    refine ⟨?_, ?_, ?_⟩
    · rw [height_redirect]
      exact Nat.succ_le_of_lt (Nat.lt_of_le_sub_one positive height)
    · have allowed : 0 < limits.maxExpansions := by
        have left : 0 < limits.maxExpansions - 1 := visited.trans_le size
        omega
      rw [size_redirect]
      exact Nat.succ_le_of_lt (Nat.lt_of_le_sub_one allowed size)
    · rw [Unfolding.bytes, fragments_redirect]
      exact bytes

end Unfolding

namespace Resolver

variable {resolver other : Resolver} {holder target origin : KeyPath} {tree : Unfolding}
  {resolution : Resolution}

/-! ### Unfoldings do not depend on limits -/

theorem Unfolds.of_lookup_eq (same : ∀ key, other.lookup key = resolver.lookup key)
    {key : KeyPath} (unfolds : resolver.Unfolds key tree) : other.Unfolds key tree := by
  induction tree using Unfolding.induction generalizing key with
  | node root entry children inductionHypothesis =>
    obtain ⟨found, below⟩ := unfolds
    obtain ⟨lengths, each⟩ := List.forall₂_iff_zip.mp below
    refine .node ((same _).trans found) (List.forall₂_iff_zip.mpr ⟨lengths, ?_⟩)
    intro target child member
    exact inductionHypothesis child (List.of_mem_zip member).2 (each member)

theorem RedirectsTo.of_lookup_eq (same : ∀ key, other.lookup key = resolver.lookup key)
    {key : KeyPath} (redirects : resolver.RedirectsTo key origin) :
    other.RedirectsTo key origin := by
  induction redirects with
  | here found => exact .here ((same _).trans found)
  | next found _ inductionHypothesis => exact .next ((same _).trans found) inductionHypothesis

/-! ### Entries that redirect -/

/-- The resolver with the limits that are left behind a reference. -/
def behindReference (resolver : Resolver) : Resolver :=
  { resolver with limits := resolver.limits.behindReference }

/-- An entry that redirects resolves exactly when its target does with one reference and one
visit less, and then to the same. -/
theorem resolvePath_iff_of_redirect (found : resolver.lookup holder = some (.redirect target)) :
    resolver.resolvePath holder = .ok resolution ↔
      0 < resolver.limits.maxRedirectDepth ∧
        ∃ inner, resolver.behindReference.resolvePath target = .ok inner ∧
          resolution = ⟨holder, inner.origin, inner.fragments⟩ := by
  have lookups : ∀ key, resolver.behindReference.lookup key = resolver.lookup key := fun _ => rfl
  rw [resolvePath_eq_ok_iff]
  constructor
  · rintro ⟨tree, unfolds, within, key, redirects, fragments⟩
    obtain ⟨child, childUnfolds, rfl⟩ := (unfolds_iff_of_redirect found).mp unfolds
    obtain ⟨positive, childWithin⟩ := Unfolding.within_redirect_iff.mp within
    rw [redirectsTo_iff_of_redirect found] at redirects
    rw [Unfolding.fragments_redirect] at fragments
    refine ⟨positive, ⟨target, resolution.origin, resolution.fragments⟩, ?_, ?_⟩
    · exact resolvePath_eq_ok_iff.mpr ⟨child, childUnfolds.of_lookup_eq lookups, childWithin, rfl,
        redirects.of_lookup_eq lookups, fragments⟩
    · rw [← key]
  · rintro ⟨positive, inner, resolved, rfl⟩
    obtain ⟨child, childUnfolds, within, -, redirects, fragments⟩ :=
      resolvePath_eq_ok_iff.mp resolved
    refine ⟨.node holder (.redirect target) [child], ?_, ?_, rfl, ?_, ?_⟩
    · exact (unfolds_iff_of_redirect found).mpr
        ⟨child, childUnfolds.of_lookup_eq fun key => (lookups key).symm, rfl⟩
    · exact Unfolding.within_redirect_iff.mpr ⟨positive, within⟩
    · rw [redirectsTo_iff_of_redirect found]
      exact redirects.of_lookup_eq fun key => (lookups key).symm
    · rw [Unfolding.fragments_redirect]
      exact fragments

/-- What resolves behind a reference resolves to the same without one. -/
theorem resolvePath_of_behindReference
    (resolved : resolver.behindReference.resolvePath target = .ok resolution) :
    resolver.resolvePath target = .ok resolution := by
  have followed := followedBy_of_atMost resolver.tables resolver.limits.behindReference_atMost
  have lasts : Lasts ResolveError.Lasting (resolver.behindReference.resolvePath target) := by
    rw [resolved]
    exact True.intro
  exact (followed.resolvePath_eq lasts).trans resolved

end Resolver

/-! ### Mentions in tables -/

/-- A mention of a path, under either policy, redirects to it exactly when none of its segments
holds what closes a reference. An entry that was read from such a mention resolves exactly when
the path does with one reference and one visit less. Both then have the same origin and the same
fragments, under the limits that are left as under the full ones. -/
theorem mention_redirects (path : KeyPath) :
    (∀ policy, LeafEntry.parse path.mention policy = .ok (.redirect path) ↔
      path.Mentionable) ∧
    ∀ (policy : MalformedReferencePolicy) (entry : LeafEntry) (resolver : Resolver)
      (holder : KeyPath), path.Mentionable → LeafEntry.parse path.mention policy = .ok entry →
      resolver.lookup holder = some entry →
      (∀ resolution, resolver.resolvePath holder = .ok resolution ↔
        0 < resolver.limits.maxRedirectDepth ∧
          ∃ inner, resolver.behindReference.resolvePath path = .ok inner ∧
            resolution = ⟨holder, inner.origin, inner.fragments⟩) ∧
      ∀ resolution, resolver.resolvePath holder = .ok resolution →
        resolver.resolvePath path = .ok ⟨path, resolution.origin, resolution.fragments⟩ := by
  refine ⟨fun policy => LeafEntry.parse_mention_iff, ?_⟩
  intro policy entry resolver holder mentionable read found
  rw [LeafEntry.parse_mention_iff.mpr mentionable] at read
  cases read
  refine ⟨fun resolution => Resolver.resolvePath_iff_of_redirect found, ?_⟩
  intro resolution resolved
  obtain ⟨-, inner, behind, rfl⟩ := (Resolver.resolvePath_iff_of_redirect found).mp resolved
  have whole := Resolver.resolvePath_of_behindReference behind
  obtain ⟨_, _, _, key, _, _⟩ := Resolver.resolvePath_eq_ok_iff.mp whole
  rw [whole, ← key]

/-- The title of the whole dialogue, which is a mention of that of its first step. -/
def dialogueTitle : KeyPath :=
  ⟨["title"], by decide, by decide⟩

theorem mention_redirects_dialogueTitle :
    ∃ resolution,
      (Resolver.ofTable Table.dialogueTable).resolvePath dialogueTitle = .ok resolution ∧
      (Resolver.ofTable Table.dialogueTable).resolvePath Table.stepTitle =
        .ok ⟨Table.stepTitle, resolution.origin, resolution.fragments⟩ := by
  have mentionable : Table.stepTitle.Mentionable := by
    unfold KeyPath.Mentionable
    decide +kernel
  obtain ⟨redirects, alike⟩ := mention_redirects Table.stepTitle
  have aliased := (alike .reject _ (Resolver.ofTable Table.dialogueTable) dialogueTitle mentionable
    ((redirects .reject).mpr mentionable) (by decide +kernel)).2
  have resolves : ((Resolver.ofTable Table.dialogueTable).resolvePath dialogueTitle).isOk := by
    decide +kernel
  obtain ⟨resolution, resolved⟩ := exists_of_isOk resolves
  exact ⟨resolution, resolved, aliased resolution resolved⟩

/-- A path that holds what closes a reference. -/
def halfPrice : KeyPath := ⟨["50%]"], by decide, by decide⟩

/-- Not every path in a table can be mentioned: a mention of this one is a reference to another
path, with text behind it. -/
theorem not_forall_mention_redirects :
    ¬∀ (bytes : ByteArray) (options : LoadOptions) (table : Table) (path : KeyPath)
      (policy : MalformedReferencePolicy), Table.load bytes options = .ok table →
      path ∈ table.keys → LeafEntry.parse path.mention policy = .ok (.redirect path) := by
  intro claim
  have listed : (Table.load "\x7b\"50%]\":\"half\"\x7d".toUTF8 {}).map Table.keys =
      .ok [halfPrice] := by decide +kernel
  obtain ⟨table, loaded, keys⟩ := exists_of_map_eq_ok listed
  have read := claim _ _ table halfPrice .reject loaded (keys ▸ List.mem_singleton_self _)
  revert read
  decide +kernel

end Phrasebook
