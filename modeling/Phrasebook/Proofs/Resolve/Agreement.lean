/-
This file shows that resolving a path finds its unfolding. An unfolding fits a walk
if it keeps to the three limits from where the walk stands, and fitting obeys the
same equations as the walk: an unfolding fits when its parts fit one after another,
each where the part before it has left the walk. So a visit succeeds exactly when
an unfolding fits, and then it has written the fragments of the unfolding.
-/

import Phrasebook.Proofs.Resolve.Expansion
import Phrasebook.Proofs.Template.CanonicalForm

namespace Phrasebook

/-! ### What a walk can afford -/

theorem Fragment.totalBytes_cons (fragment : Fragment) (rest : List Fragment) :
    totalBytes (fragment :: rest) = fragment.bytes + totalBytes rest := by
  rw [totalBytes, List.map_cons, List.sum_cons, totalBytes]

theorem Fragment.totalBytes_append (first second : List Fragment) :
    totalBytes (first ++ second) = totalBytes first + totalBytes second := by
  simp only [totalBytes, List.map_append, List.sum_append]

namespace Walk

/-- The bytes are counted up to the greatest count. -/
theorem outputBytes_after {walk : Walk} (counted : walk.outputBytes ≤ maxCount) (visits : Nat)
    (fragments : List Fragment) :
    (walk.after visits fragments).outputBytes =
      min (walk.outputBytes + Fragment.totalBytes fragments) maxCount := by
  have folded : ∀ total, total ≤ maxCount →
      fragments.foldl addBytes total = min (total + Fragment.totalBytes fragments) maxCount := by
    induction fragments with
    | nil =>
      intro total small
      exact (Nat.min_eq_left small).symm
    | cons fragment rest inductionHypothesis =>
      intro total small
      have counted : addBytes total fragment ≤ maxCount := Nat.min_le_right _ _
      rw [List.foldl_cons, inductionHypothesis _ counted]
      rw [addBytes, Fragment.totalBytes_cons]
      omega
  exact folded walk.outputBytes counted

/-- So many more visits and these fragments stay within the budgets. -/
structure Affords (walk : Walk) (limits : Limits) (visits : Nat)
    (fragments : List Fragment) : Prop where
  counted : walk.outputBytes ≤ maxCount
  visits : walk.visits + visits ≤ limits.maxExpansions
  output : min (walk.outputBytes + Fragment.totalBytes fragments) maxCount ≤
    limits.maxOutputBytes

/-- Budgets suffice for two parts exactly when they suffice for the first and then for the
second. -/
theorem affords_append {walk : Walk} {limits : Limits} {first second : Nat}
    {earlier later : List Fragment} :
    walk.Affords limits (first + second) (earlier ++ later) ↔
      walk.Affords limits first earlier ∧
        (walk.after first earlier).Affords limits second later := by
  constructor
  · rintro ⟨counted, visits, output⟩
    rw [Fragment.totalBytes_append] at output
    have count := outputBytes_after counted first earlier
    refine ⟨⟨counted, by omega, by omega⟩, ⟨?_, ?_, ?_⟩⟩
    · rw [count]
      exact Nat.min_le_right _ _
    · rw [after, Nat.add_assoc]
      exact visits
    · rw [count]
      omega
  · rintro ⟨⟨counted, _, _⟩, ⟨_, visits, output⟩⟩
    rw [outputBytes_after counted first earlier] at output
    rw [after, Nat.add_assoc] at visits
    refine ⟨counted, visits, ?_⟩
    rw [Fragment.totalBytes_append]
    omega

theorem Affords.nothing {walk : Walk} {limits : Limits} {visits : Nat}
    {fragments : List Fragment} (affords : walk.Affords limits visits fragments) :
    walk.Affords limits 0 [] := by
  rw [← Nat.zero_add visits, ← List.nil_append fragments] at affords
  exact (affords_append.mp affords).1

theorem Affords.after {walk : Walk} {limits : Limits} {visits : Nat}
    {fragments : List Fragment} (affords : walk.Affords limits visits fragments) :
    (walk.after visits fragments).Affords limits 0 [] := by
  rw [← Nat.add_zero visits, ← List.append_nil fragments] at affords
  exact (affords_append.mp affords).2

/-- The budgets suffice for one more fragment exactly when writing it does not fail. -/
theorem affords_singleton {walk : Walk} {limits : Limits} (nothing : walk.Affords limits 0 [])
    (fragment : Fragment) :
    walk.Affords limits 0 [fragment] ↔
      (walk.after 0 [fragment]).outputBytes ≤ limits.maxOutputBytes := by
  rw [outputBytes_after nothing.counted]
  exact ⟨fun affords => affords.output, fun output => ⟨nothing.counted, nothing.visits, output⟩⟩

/-- A node needs a visit of its own besides what is below it. -/
theorem affords_opened {walk : Walk} {limits : Limits} {key : KeyPath} {visits : Nat}
    {fragments : List Fragment} :
    (walk.opened key).Affords limits visits fragments ↔
      walk.Affords limits (visits + 1) fragments := by
  have rearranged : (walk.opened key).visits + visits = walk.visits + (visits + 1) := by
    rw [opened, Nat.add_assoc, Nat.add_comm 1 visits]
  constructor
  · rintro ⟨counted, enough, output⟩
    exact ⟨counted, rearranged ▸ enough, output⟩
  · rintro ⟨counted, enough, output⟩
    exact ⟨counted, rearranged ▸ enough, output⟩

end Walk

namespace Resolver

variable {resolver : Resolver}

/-! ### Fitting -/

/-- The tree is the unfolding of the key and keeps to the limits from where the walk stands. -/
structure Fits (resolver : Resolver) (walk : Walk) (key : KeyPath) (tree : Unfolding) :
    Prop where
  unfolds : resolver.Unfolds key tree
  shallow : walk.stack.length + tree.height ≤ resolver.limits.maxRedirectDepth
  affordable : walk.Affords resolver.limits tree.size tree.fragments

/-- The trees are the unfoldings of what the segments refer to and keep to the limits, together
with the texts and placeholders among the segments. -/
structure FitsAll (resolver : Resolver) (walk : Walk) (segments : List Segment)
    (trees : List Unfolding) : Prop where
  unfold : List.Forall₂ resolver.Unfolds (Segment.targets segments) trees
  shallow : ∀ tree ∈ trees,
    walk.stack.length + tree.height ≤ resolver.limits.maxRedirectDepth
  affordable : walk.Affords resolver.limits (Unfolding.keysOfAll trees).length
    (weave segments (Unfolding.fragmentsOfEach trees))

theorem fitsAll_nil {walk : Walk} {trees : List Unfolding} :
    resolver.FitsAll walk [] trees ↔ trees = [] ∧ walk.Affords resolver.limits 0 [] := by
  constructor
  · rintro ⟨unfold, _, affordable⟩
    cases unfold
    exact ⟨rfl, affordable⟩
  · rintro ⟨rfl, affordable⟩
    exact ⟨List.Forall₂.nil, (fun _ member => absurd member List.not_mem_nil), affordable⟩

theorem fitsAll_ofFragment {walk : Walk} {fragment : Fragment} {rest : List Segment}
    {trees : List Unfolding} :
    resolver.FitsAll walk (.ofFragment fragment :: rest) trees ↔
      walk.Affords resolver.limits 0 [fragment] ∧
        resolver.FitsAll (walk.after 0 [fragment]) rest trees := by
  have parts : walk.Affords resolver.limits (0 + (Unfolding.keysOfAll trees).length)
      ([fragment] ++ weave rest (Unfolding.fragmentsOfEach trees)) ↔ _ := Walk.affords_append
  rw [Nat.zero_add, List.singleton_append, ← weave_ofFragment] at parts
  constructor
  · rintro ⟨unfold, shallow, affordable⟩
    rw [Segment.targets_ofFragment] at unfold
    exact ⟨(parts.mp affordable).1, unfold, shallow, (parts.mp affordable).2⟩
  · rintro ⟨first, unfold, shallow, later⟩
    rw [← Segment.targets_ofFragment fragment] at unfold
    exact ⟨unfold, shallow, parts.mpr ⟨first, later⟩⟩

theorem fitsAll_reference {walk : Walk} {target : KeyPath} {rest : List Segment}
    {tree : Unfolding} {trees : List Unfolding} :
    resolver.FitsAll walk (.reference target :: rest) (tree :: trees) ↔
      resolver.Fits walk target tree ∧
        resolver.FitsAll (walk.after tree.size tree.fragments) rest trees := by
  have parts : walk.Affords resolver.limits (tree.size + (Unfolding.keysOfAll trees).length)
      (tree.fragments ++ weave rest (Unfolding.fragmentsOfEach trees)) ↔ _ :=
    Walk.affords_append
  rw [Unfolding.size, ← List.length_append] at parts
  constructor
  · rintro ⟨unfold, shallow, affordable⟩
    obtain ⟨first, later⟩ := List.forall₂_cons.mp unfold
    obtain ⟨firstShallow, laterShallow⟩ := List.forall_mem_cons.mp shallow
    obtain ⟨firstAffordable, laterAffordable⟩ := parts.mp affordable
    exact ⟨⟨first, firstShallow, firstAffordable⟩, ⟨later, laterShallow, laterAffordable⟩⟩
  · rintro ⟨⟨first, firstShallow, firstAffordable⟩, ⟨later, laterShallow, laterAffordable⟩⟩
    exact ⟨List.Forall₂.cons first later, List.forall_mem_cons.mpr ⟨firstShallow, laterShallow⟩,
      parts.mpr ⟨firstAffordable, laterAffordable⟩⟩

theorem fitsAll_reference_nil {walk : Walk} {target : KeyPath} {rest : List Segment} :
    ¬resolver.FitsAll walk (.reference target :: rest) [] := by
  rintro ⟨unfold, _, _⟩
  cases unfold

theorem fits_node {walk : Walk} {key root : KeyPath} {entry : LeafEntry}
    {children : List Unfolding} :
    resolver.Fits walk key (.node root entry children) ↔
      root = key ∧ resolver.lookup key = some entry ∧
        walk.stack.length ≤ resolver.limits.maxRedirectDepth ∧
        resolver.FitsAll (walk.opened key) entry.segments children := by
  constructor
  · rintro ⟨⟨found, below⟩, shallow, affordable⟩
    rw [LeafEntry.targets_eq] at below
    refine ⟨rfl, found, by omega, below, ?_, Walk.affords_opened.mpr affordable⟩
    intro child member
    have level : child.height + 1 ≤ Unfolding.heightBelow children :=
      Unfolding.heightBelow_le_iff.mp le_rfl child member
    rw [Unfolding.height] at shallow
    rw [Walk.opened, List.length_cons]
    omega
  · rintro ⟨rfl, found, shallow, below, each, affordable⟩
    rw [← LeafEntry.targets_eq] at below
    refine ⟨.node found below, ?_, Walk.affords_opened.mp affordable⟩
    have low : Unfolding.heightBelow children ≤
        resolver.limits.maxRedirectDepth - walk.stack.length := by
      refine Unfolding.heightBelow_le_iff.mpr fun child member => ?_
      have level := each child member
      rw [Walk.opened, List.length_cons] at level
      omega
    rw [Unfolding.height]
    omega

/-- Below a node that fits, the trees fit with its key open, and that key is not in them. -/
theorem Fits.below {walk : Walk} {key root : KeyPath} {entry other : LeafEntry}
    {children : List Unfolding} (fits : resolver.Fits walk key (.node root other children))
    (found : resolver.lookup key = some entry)
    (apart : ∀ inner ∈ (Unfolding.node root other children).keys, inner ∉ walk.stack) :
    root = key ∧ other = entry ∧ resolver.FitsAll (walk.opened key) entry.segments children ∧
      ∀ inner ∈ Unfolding.keysOfAll children, inner ∉ (walk.opened key).stack := by
  obtain ⟨rfl, foundOther, -, below⟩ := fits_node.mp fits
  rw [found] at foundOther
  cases foundOther
  refine ⟨rfl, rfl, below, fun inner inside member => ?_⟩
  rcases List.mem_cons.mp member with rfl | outside
  · obtain ⟨child, childMember, innerMember⟩ := Unfolding.mem_keysOfAll.mp inside
    exact fits.unfolds.not_mem_keys_of_mem childMember innerMember
  · exact apart inner (List.mem_cons_of_mem _ inside) outside

/-! ### Success and fitting -/

theorem hereditary_exists_fits (resolver : Resolver) : resolver.Hereditary
    (fun walk key result => walk.Affords resolver.limits 0 [] → ∀ left, result = .ok left →
      ∃ tree, resolver.Fits walk key tree ∧ left = walk.after tree.size tree.fragments)
    (fun walk segments result => walk.Affords resolver.limits 0 [] → ∀ left, result = .ok left →
      ∃ trees, resolver.FitsAll walk segments trees ∧
        left = walk.after (Unfolding.keysOfAll trees).length
          (weave segments (Unfolding.fragmentsOfEach trees))) where
  refused := fun _ _ _ impossible => nomatch impossible
  absent := fun _ _ _ _ _ impossible => nomatch impossible
  exhausted := fun _ _ _ _ _ _ impossible => nomatch impossible
  spoiled := fun _ _ _ _ impossible => nomatch impossible
  overfull := fun _ _ _ impossible => nomatch impossible
  broken := fun _ _ _ impossible => nomatch impossible
  admitted := by
    intro walk key entry written admitted _ writes nothing left same
    cases same
    have opened : (walk.opened key).Affords resolver.limits 0 [] :=
      Walk.affords_opened.mpr ⟨nothing.counted, admitted.affordable, nothing.output⟩
    obtain ⟨children, fits, rfl⟩ := writes opened written rfl
    refine ⟨.node key entry children,
      fits_node.mpr ⟨rfl, admitted.found, admitted.shallow, fits⟩, ?_⟩
    exact Walk.leave_after_opened _ _ _ _
  done := by
    intro walk nothing left same
    cases same
    exact ⟨[], fitsAll_nil.mpr ⟨rfl, nothing⟩, rfl⟩
  wrote := by
    intro walk fragment rest result within writes nothing left same
    have first := (Walk.affords_singleton nothing fragment).mpr within
    obtain ⟨trees, fits, rfl⟩ := writes first.after left same
    refine ⟨trees, fitsAll_ofFragment.mpr ⟨first, fits⟩, ?_⟩
    rw [Walk.after_after, weave_ofFragment, Nat.zero_add, List.singleton_append]
  followed := by
    intro walk target rest left result _ visits writes nothing written same
    obtain ⟨tree, fits, rfl⟩ := visits nothing left rfl
    obtain ⟨trees, later, rfl⟩ := writes fits.affordable.after written same
    refine ⟨tree :: trees, fitsAll_reference.mpr ⟨fits, later⟩, ?_⟩
    rw [Walk.after_after, Unfolding.keysOfAll, List.length_append]
    rfl

theorem hereditary_of_fits (resolver : Resolver) : resolver.Hereditary
    (fun walk key result => ∀ tree, resolver.Fits walk key tree →
      (∀ inner ∈ tree.keys, inner ∉ walk.stack) →
        result = .ok (walk.after tree.size tree.fragments))
    (fun walk segments result => ∀ trees, resolver.FitsAll walk segments trees →
      (∀ inner ∈ Unfolding.keysOfAll trees, inner ∉ walk.stack) →
        result = .ok (walk.after (Unfolding.keysOfAll trees).length
          (weave segments (Unfolding.fragmentsOfEach trees)))) where
  refused := by
    rintro walk key refused ⟨root, entry, children⟩ fits apart
    obtain ⟨rfl, -, shallow, -⟩ := fits_node.mp fits
    rcases refused with member | deep
    · exact absurd member (apart root List.mem_cons_self)
    · exact absurd shallow (Nat.not_le.mpr deep)
  absent := by
    rintro walk key - - absent ⟨root, entry, children⟩ fits -
    rw [(fits_node.mp fits).2.1] at absent
    cases absent
  exhausted := by
    rintro walk key entry - - - exhausted ⟨root, _, children⟩ fits -
    have visits := fits.affordable.visits
    rw [Unfolding.size, Unfolding.keys, List.length_cons] at visits
    omega
  admitted := by
    rintro walk key entry written admitted - writes ⟨root, other, children⟩ fits apart
    obtain ⟨rfl, rfl, below, fresh⟩ := fits.below admitted.found apart
    cases writes children below fresh
    rw [Walk.leave_after_opened]
    rfl
  spoiled := by
    rintro walk key entry fault admitted writes ⟨root, other, children⟩ fits apart
    obtain ⟨rfl, rfl, below, fresh⟩ := fits.below admitted.found apart
    cases writes children below fresh
  done := by
    intro walk trees fits _
    obtain ⟨rfl, -⟩ := fitsAll_nil.mp fits
    rfl
  overfull := by
    intro walk fragment rest beyond trees fits _
    obtain ⟨first, -⟩ := fitsAll_ofFragment.mp fits
    have within := (Walk.affords_singleton first.nothing fragment).mp first
    exact absurd within (Nat.not_le.mpr beyond)
  wrote := by
    intro walk fragment rest result _ writes trees fits apart
    obtain ⟨-, later⟩ := fitsAll_ofFragment.mp fits
    rw [writes trees later apart, Walk.after_after, weave_ofFragment, Nat.zero_add,
      List.singleton_append]
  broken := by
    intro walk target rest fault visits trees fits apart
    match trees with
    | [] => exact absurd fits fitsAll_reference_nil
    | tree :: trees =>
      obtain ⟨first, -⟩ := fitsAll_reference.mp fits
      cases visits tree first fun inner member => apart inner (List.mem_append_left _ member)
  followed := by
    intro walk target rest left result _ visits writes trees fits apart
    match trees with
    | [] => exact absurd fits fitsAll_reference_nil
    | tree :: trees =>
      obtain ⟨first, later⟩ := fitsAll_reference.mp fits
      cases visits tree first fun inner member => apart inner (List.mem_append_left _ member)
      rw [writes trees later fun inner member => apart inner (List.mem_append_right _ member),
        Walk.after_after, Unfolding.keysOfAll, List.length_append]
      rfl

/-- Where a visit succeeds, an unfolding fits, and the walk has written its fragments. -/
theorem exists_fits_of_visit {walk left : Walk} {key : KeyPath}
    (nothing : walk.Affords resolver.limits 0 [])
    (visited : resolver.visit walk key = .ok left) :
    ∃ tree, resolver.Fits walk key tree ∧ left = walk.after tree.size tree.fragments := by
  have sound := (hereditary_exists_fits resolver).visit walk key
  rw [visited] at sound
  exact sound nothing left rfl

/-- Where an unfolding fits none of whose keys is open, a visit succeeds. -/
theorem visit_of_fits {walk : Walk} {key : KeyPath} {tree : Unfolding}
    (fits : resolver.Fits walk key tree) (apart : ∀ inner ∈ tree.keys, inner ∉ walk.stack) :
    resolver.visit walk key = .ok (walk.after tree.size tree.fragments) :=
  (hereditary_of_fits resolver).visit walk key tree fits apart

/-! ### Origins -/

theorem redirectsTo_of_expandWithin {levels : Nat} {walk left : Walk} {key origin : KeyPath}
    (expanded : resolver.expandWithin levels walk key = .ok (origin, left)) :
    resolver.RedirectsTo key origin := by
  induction levels generalizing walk left key with
  | zero => cases expanded
  | succ levels inductionHypothesis =>
    rw [expandWithin] at expanded
    split at expanded
    · cases expanded
    · split at expanded
      · cases expanded
      · rename_i entry found
        split at expanded
        · cases expanded
        · split at expanded
          · split at expanded
            · cases expanded
            · rename_i inner
              cases expanded
              exact .next found (inductionHypothesis inner)
          · split at expanded
            · cases expanded
            · cases expanded
              exact .here found

/-- The key that is named with a walk is where the redirects end. -/
theorem expand_eq_ok_iff {walk left : Walk} {key origin : KeyPath} :
    resolver.expand walk key = .ok (origin, left) ↔
      resolver.visit walk key = .ok left ∧ resolver.RedirectsTo key origin := by
  constructor
  · intro expanded
    exact ⟨visit_eq_ok_iff.mpr ⟨origin, expanded⟩, redirectsTo_of_expandWithin expanded⟩
  · rintro ⟨visited, redirects⟩
    obtain ⟨other, expanded⟩ := visit_eq_ok_iff.mp visited
    rw [redirects.unique (redirectsTo_of_expandWithin expanded)]
    exact expanded

end Resolver

/-! ### The texts of an unfolding -/

theorem LeafEntry.settled_segments (entry : LeafEntry) : Segment.Settled entry.segments := by
  cases entry with
  | literal template => exact template.settled
  | redirect target => exact True.intro

theorem mem_segments_or_mem_of_mem_weave {fragment : Fragment} {segments : List Segment}
    {inner : List (List Fragment)} (member : fragment ∈ weave segments inner) :
    .ofFragment fragment ∈ segments ∨ ∃ part ∈ inner, fragment ∈ part := by
  induction segments generalizing inner with
  | nil => cases member
  | cons segment rest inductionHypothesis =>
    rcases segment.eq_ofFragment_or_reference with ⟨other, rfl⟩ | ⟨target, rfl⟩
    · rw [weave_ofFragment] at member
      rcases List.mem_cons.mp member with rfl | later
      · exact Or.inl List.mem_cons_self
      · exact (inductionHypothesis later).imp_left (List.mem_cons_of_mem _)
    · match inner with
      | [] => exact (inductionHypothesis member).imp_left (List.mem_cons_of_mem _)
      | first :: inner =>
        rcases List.mem_append.mp member with here | later
        · exact Or.inr ⟨first, List.mem_cons_self, here⟩
        · refine (inductionHypothesis later).imp (List.mem_cons_of_mem _) ?_
          rintro ⟨part, partMember, inside⟩
          exact ⟨part, List.mem_cons_of_mem _ partMember, inside⟩

namespace Unfolding

theorem exists_of_mem_fragmentsOfEach {part : List Fragment} {trees : List Unfolding}
    (member : part ∈ fragmentsOfEach trees) : ∃ tree ∈ trees, part = tree.fragments := by
  induction trees with
  | nil => cases member
  | cons first rest inductionHypothesis =>
    rcases List.mem_cons.mp member with same | later
    · exact ⟨first, List.mem_cons_self, same⟩
    · obtain ⟨tree, treeMember, same⟩ := inductionHypothesis later
      exact ⟨tree, List.mem_cons_of_mem _ treeMember, same⟩

/-- No text of an unfolding is empty, since none of a template is. -/
theorem ne_empty_of_mem_fragments {tree : Unfolding} {content : String}
    (member : .text content ∈ tree.fragments) : content ≠ "" := by
  induction tree using Unfolding.induction with
  | node key entry children inductionHypothesis =>
    rw [fragments] at member
    rcases mem_segments_or_mem_of_mem_weave member with own | ⟨part, partMember, inside⟩
    · exact Segment.ne_empty_of_settled entry.settled_segments own
    · obtain ⟨child, childMember, rfl⟩ := exists_of_mem_fragmentsOfEach partMember
      exact inductionHypothesis child childMember inside

end Unfolding

/-! ### Resolving a path -/

/-- The unfolding keeps to the limits of a resolution. -/
structure Unfolding.Within (tree : Unfolding) (limits : Limits) : Prop where
  height : tree.height ≤ limits.maxRedirectDepth
  size : tree.size ≤ limits.maxExpansions
  bytes : min tree.bytes Walk.maxCount ≤ limits.maxOutputBytes

namespace Resolver

variable {resolver : Resolver} {path : KeyPath}

/-- At the start of a resolution nothing is used up. -/
theorem fits_start_iff {tree : Unfolding} :
    resolver.Fits { requested := path } path tree ↔
      resolver.Unfolds path tree ∧ tree.Within resolver.limits := by
  constructor
  · rintro ⟨unfolds, shallow, ⟨_, visits, output⟩⟩
    simp only [List.length_nil, Nat.zero_add] at shallow visits output
    exact ⟨unfolds, shallow, visits, output⟩
  · rintro ⟨unfolds, height, size, bytes⟩
    refine ⟨unfolds, ?_, ⟨Nat.zero_le _, ?_, ?_⟩⟩
    · rwa [List.length_nil, Nat.zero_add]
    · rwa [Nat.zero_add]
    · rwa [Nat.zero_add]

/-- Visiting the path at the start of a resolution. -/
theorem visit_start_eq_ok_iff {left : Walk} :
    resolver.visit { requested := path } path = .ok left ↔
      ∃ tree, resolver.Unfolds path tree ∧ tree.Within resolver.limits ∧
        left = Walk.after { requested := path } tree.size tree.fragments := by
  constructor
  · intro visited
    have nothing : Walk.Affords { requested := path } resolver.limits 0 [] :=
      ⟨Nat.zero_le _, Nat.zero_le _, Nat.min_le_left _ _ |>.trans (Nat.zero_le _)⟩
    obtain ⟨tree, fits, rfl⟩ := exists_fits_of_visit nothing visited
    obtain ⟨unfolds, within⟩ := fits_start_iff.mp fits
    exact ⟨tree, unfolds, within, rfl⟩
  · rintro ⟨tree, unfolds, within, rfl⟩
    exact visit_of_fits (fits_start_iff.mpr ⟨unfolds, within⟩) fun _ _ member => nomatch member

theorem resolvePath_eq_ok_iff_expand {resolution : Resolution} :
    resolver.resolvePath path = .ok resolution ↔
      ∃ origin left, resolver.expand { requested := path } path = .ok (origin, left) ∧
        resolution = ⟨path, origin, left.written.reverse⟩ := by
  unfold resolvePath
  cases resolver.expand { requested := path } path with
  | error fault => simp
  | ok result =>
    obtain ⟨origin, left⟩ := result
    constructor
    · intro same
      cases same
      exact ⟨origin, left, rfl, rfl⟩
    · rintro ⟨_, _, same, rfl⟩
      cases same
      rfl

/-- A resolution is what is left of an unfolding that keeps to the limits. -/
theorem resolvePath_eq_ok_iff {resolution : Resolution} :
    resolver.resolvePath path = .ok resolution ↔
      ∃ tree, resolver.Unfolds path tree ∧ tree.Within resolver.limits ∧
        resolution.key = path ∧ resolver.RedirectsTo path resolution.origin ∧
        resolution.fragments = Fragment.join tree.fragments := by
  rw [resolvePath_eq_ok_iff_expand]
  constructor
  · rintro ⟨origin, left, expanded, rfl⟩
    obtain ⟨visited, redirects⟩ := expand_eq_ok_iff.mp expanded
    obtain ⟨tree, unfolds, within, rfl⟩ := visit_start_eq_ok_iff.mp visited
    exact ⟨tree, unfolds, within, rfl, redirects, Fragment.reverse_foldl_push tree.fragments⟩
  · rintro ⟨tree, unfolds, within, key, redirects, fragments⟩
    have visited := visit_start_eq_ok_iff.mpr ⟨tree, unfolds, within, rfl⟩
    refine ⟨resolution.origin, _, expand_eq_ok_iff.mpr ⟨visited, redirects⟩, ?_⟩
    obtain ⟨_, origin, _⟩ := resolution
    cases key
    cases fragments
    exact congrArg _ (Fragment.reverse_foldl_push tree.fragments).symm

/-- A path resolves exactly when its unfolding keeps to the limits. -/
theorem exists_resolvePath_iff :
    (∃ resolution, resolver.resolvePath path = .ok resolution) ↔
      ∃ tree, resolver.Unfolds path tree ∧ tree.Within resolver.limits := by
  constructor
  · rintro ⟨resolution, resolved⟩
    obtain ⟨tree, unfolds, within, -⟩ := resolvePath_eq_ok_iff.mp resolved
    exact ⟨tree, unfolds, within⟩
  · rintro ⟨tree, unfolds, within⟩
    have visited := visit_start_eq_ok_iff.mpr ⟨tree, unfolds, within, rfl⟩
    obtain ⟨origin, expanded⟩ := visit_eq_ok_iff.mp visited
    exact ⟨_, resolvePath_eq_ok_iff_expand.mpr ⟨origin, _, expanded, rfl⟩⟩

/-- Resolving a path succeeds exactly when the path has an unfolding, which is finite and has an
entry at each of its keys, and the unfolding keeps to the limits. The resolution then names the
path and the end of its redirects, and its fragments are those of the unfolding from left to
right with neighbouring texts joined. -/
theorem resolvePath_correct (resolver : Resolver) (path : KeyPath) :
    ((∃ resolution, resolver.resolvePath path = .ok resolution) ↔
      ∃ tree, resolver.Unfolds path tree ∧
        tree.height ≤ resolver.limits.maxRedirectDepth ∧
        tree.size ≤ resolver.limits.maxExpansions ∧
        min tree.bytes Walk.maxCount ≤ resolver.limits.maxOutputBytes) ∧
    ∀ resolution, resolver.resolvePath path = .ok resolution →
      resolution.key = path ∧ resolver.RedirectsTo path resolution.origin ∧
      ∀ tree, resolver.Unfolds path tree →
        resolution.fragments = Fragment.join tree.fragments ∧
        Fragment.Settled resolution.fragments := by
  constructor
  · rw [exists_resolvePath_iff]
    refine exists_congr fun tree => and_congr_right fun _ => ?_
    exact ⟨fun within => ⟨within.height, within.size, within.bytes⟩,
      fun ⟨height, size, bytes⟩ => ⟨height, size, bytes⟩⟩
  · intro resolution resolved
    obtain ⟨tree, unfolds, -, key, redirects, fragments⟩ := resolvePath_eq_ok_iff.mp resolved
    refine ⟨key, redirects, fun other unfoldsOther => ?_⟩
    rw [unfoldsOther.unique unfolds, fragments]
    exact ⟨rfl, Fragment.settled_join fun _ => Unfolding.ne_empty_of_mem_fragments⟩

end Resolver

end Phrasebook
