/-
This file shows that what an expansion does to a walk depends on the key alone. An
expansion that succeeds leaves open what was open, uses up the visits and bytes of the
key's unfolding, and writes what the key resolves to on its own, joined to the text it
meets. The walk decides only whether the expansion succeeds: where it does, it also
succeeds from a walk with fewer keys open that has used up less. So a reference can
stand beside itself: the second time it is expanded as it was the first time.
-/

import Phrasebook.Proofs.Resolve.OutputBound

namespace Phrasebook

/-! ### Walks that are not so far -/

namespace Walk

/-- The keys open in the walk are among those open in the other, and in their order, and it has
used up no more. So it is whichever of its open keys were closed, the innermost or others. -/
structure AtMost (walk other : Walk) : Prop where
  stack : walk.stack.Sublist other.stack
  visits : walk.visits ≤ other.visits
  output : walk.outputBytes ≤ other.outputBytes

variable {walk other : Walk}

theorem atMost_self (walk : Walk) : walk.AtMost walk :=
  ⟨List.Sublist.refl _, le_rfl, le_rfl⟩

/-- At the start of a resolution a walk is not so far as any other. -/
theorem atMost_start (requested : KeyPath) (walk : Walk) :
    AtMost { requested := requested } walk :=
  ⟨List.nil_sublist _, Nat.zero_le _, Nat.zero_le _⟩

theorem AtMost.opened (atMost : walk.AtMost other) (key : KeyPath) :
    (walk.opened key).AtMost (other.opened key) :=
  ⟨atMost.stack.cons_cons key, Nat.succ_le_succ atMost.visits, atMost.output⟩

theorem foldl_addBytes_le {total larger : Nat} (le : total ≤ larger)
    (fragments : List Fragment) :
    fragments.foldl addBytes total ≤ fragments.foldl addBytes larger := by
  induction fragments generalizing total larger with
  | nil => exact le
  | cons fragment rest inductionHypothesis =>
    refine inductionHypothesis ?_
    unfold addBytes
    omega

theorem AtMost.after (atMost : walk.AtMost other) (visits : Nat) (fragments : List Fragment) :
    (walk.after visits fragments).AtMost (other.after visits fragments) :=
  ⟨atMost.stack, Nat.add_le_add_right atMost.visits visits,
    foldl_addBytes_le atMost.output fragments⟩

/-- A step adds the same visits and fragments to every walk that is not so far as this one, and
the bytes of the fragments are all counted. -/
structure Adds (step : Walk → Except ResolveError Walk) (walk : Walk) (visits : Nat)
    (fragments : List Fragment) : Prop where
  alike : ∀ other : Walk, other.AtMost walk → step other = .ok (other.after visits fragments)
  counted : (walk.after visits fragments).outputBytes =
    walk.outputBytes + Fragment.totalBytes fragments

end Walk

namespace Resolver

variable {resolver : Resolver} {walk : Walk} {key : KeyPath}

/-! ### What a step adds -/

theorem Admits.of_atMost {other : Walk} {entry : LeafEntry}
    (admitted : resolver.Admits walk key entry) (atMost : other.AtMost walk) :
    resolver.Admits other key entry where
  fresh := fun member => admitted.fresh (atMost.stack.subset member)
  shallow := atMost.stack.length_le.trans admitted.shallow
  found := admitted.found
  affordable := (Nat.succ_le_succ atMost.visits).trans admitted.affordable

/-- A limit on output below the greatest count stops a walk before bytes go uncounted. -/
theorem outputBytes_after_singleton (bounded : resolver.limits.maxOutputBytes < Walk.maxCount)
    {fragment : Fragment}
    (within : (walk.after 0 [fragment]).outputBytes ≤ resolver.limits.maxOutputBytes) :
    (walk.after 0 [fragment]).outputBytes = walk.outputBytes + fragment.bytes := by
  have counted : (walk.after 0 [fragment]).outputBytes =
      min (walk.outputBytes + fragment.bytes) Walk.maxCount := rfl
  omega

/-- Where a step succeeds, it adds the same to all walks that are not so far. -/
theorem hereditary_adds (bounded : resolver.limits.maxOutputBytes < Walk.maxCount) :
    resolver.Hereditary
      (fun walk key result => (∃ left, result = .ok left) →
        ∃ visits fragments, Walk.Adds (resolver.visit · key) walk visits fragments)
      (fun walk segments result => (∃ left, result = .ok left) →
        ∃ visits fragments, Walk.Adds (resolver.write segments) walk visits fragments) where
  refused := fun _ ⟨_, impossible⟩ => nomatch impossible
  absent := fun _ _ _ ⟨_, impossible⟩ => nomatch impossible
  exhausted := fun _ _ _ _ ⟨_, impossible⟩ => nomatch impossible
  spoiled := fun _ _ ⟨_, impossible⟩ => nomatch impossible
  overfull := fun _ ⟨_, impossible⟩ => nomatch impossible
  broken := fun _ ⟨_, impossible⟩ => nomatch impossible
  admitted := by
    intro walk key entry written admitted _ writes _
    obtain ⟨visits, fragments, adds⟩ := writes ⟨written, rfl⟩
    refine ⟨visits + 1, fragments, fun other atMost => ?_, adds.counted⟩
    rw [visit_admitted (admitted.of_atMost atMost), adds.alike _ (atMost.opened key)]
    exact congrArg Except.ok (Walk.leave_after_opened other key visits fragments)
  done := by
    intro walk _
    exact ⟨0, [], fun _ _ => rfl, rfl⟩
  wrote := by
    intro walk fragment rest result within writes succeeded
    obtain ⟨visits, fragments, adds⟩ := writes succeeded
    refine ⟨visits, fragment :: fragments, fun other atMost => ?_, ?_⟩
    · have affordable := (atMost.after 0 [fragment]).output.trans within
      rw [write_ofFragment, if_neg (Nat.not_lt.mpr affordable),
        adds.alike _ (atMost.after 0 [fragment]), Walk.after_after, Nat.zero_add,
        List.singleton_append]
    · calc (walk.after visits (fragment :: fragments)).outputBytes
          = (walk.after 0 [fragment]).outputBytes + Fragment.totalBytes fragments := adds.counted
        _ = walk.outputBytes + Fragment.totalBytes (fragment :: fragments) := by
          rw [outputBytes_after_singleton bounded within, Fragment.totalBytes_cons, Nat.add_assoc]
  followed := by
    intro walk target rest left result visited visits writes succeeded
    obtain ⟨first, earlier, addsFirst⟩ := visits ⟨left, rfl⟩
    -- What the visit adds to this walk is where the rest goes on.
    have reached := addsFirst.alike walk walk.atMost_self
    rw [visited, Except.ok.injEq] at reached
    subst reached
    obtain ⟨second, later, addsSecond⟩ := writes succeeded
    refine ⟨first + second, earlier ++ later, fun other atMost => ?_, ?_⟩
    · have onward := addsSecond.alike _ (atMost.after first earlier)
      rw [write_reference, addsFirst.alike other atMost, ← Walk.after_after]
      exact onward
    · rw [← Walk.after_after, addsSecond.counted, addsFirst.counted,
        Fragment.totalBytes_append, Nat.add_assoc]

/-- A visit that succeeds adds the same to all walks that are not so far. -/
theorem exists_adds_of_visit (bounded : resolver.limits.maxOutputBytes < Walk.maxCount)
    {left : Walk} (visited : resolver.visit walk key = .ok left) :
    ∃ visits fragments, Walk.Adds (resolver.visit · key) walk visits fragments ∧
      left = walk.after visits fragments := by
  obtain ⟨visits, fragments, adds⟩ :=
    (hereditary_adds bounded).visit walk key ⟨left, visited⟩
  refine ⟨visits, fragments, adds, ?_⟩
  have reached := adds.alike walk walk.atMost_self
  rw [visited, Except.ok.injEq] at reached
  exact reached

/-- What a visit adds anywhere it adds at the start of a resolution, so it is the unfolding. -/
theorem exists_unfolds_of_adds {visits : Nat} {fragments : List Fragment}
    (adds : Walk.Adds (resolver.visit · key) walk visits fragments) :
    ∃ tree, resolver.Unfolds key tree ∧ tree.Within resolver.limits ∧ visits = tree.size ∧
      Fragment.join fragments = Fragment.join tree.fragments := by
  have started := adds.alike _ (Walk.atMost_start key walk)
  obtain ⟨tree, unfolds, within, same⟩ := visit_start_eq_ok_iff.mp started
  have count : 0 + visits = 0 + tree.size := congrArg Walk.visits same
  have written : fragments.foldl Fragment.push [] = tree.fragments.foldl Fragment.push [] :=
    congrArg Walk.written same
  refine ⟨tree, unfolds, within, Nat.add_left_cancel count, ?_⟩
  rw [← Fragment.reverse_foldl_push, ← Fragment.reverse_foldl_push, written]

end Resolver

/-! ### Growing by an unfolding -/

/-- The second walk is the first behind an expansion: the same keys are open, the counts have
grown by the nodes and the bytes of an unfolding, and its own fragments stand behind those
written before, joined where text meets text. -/
structure Walk.GrownBy (walk left : Walk) (tree : Unfolding) (own : List Fragment) : Prop where
  requested : left.requested = walk.requested
  stack : left.stack = walk.stack
  visits : left.visits = walk.visits + tree.size
  output : left.outputBytes = walk.outputBytes + tree.bytes
  written : Fragment.Settled walk.written.reverse →
    left.written.reverse = Fragment.join (walk.written.reverse ++ own) ∧
      Fragment.Settled left.written.reverse

/-- Behind settled fragments, pieces are written as if they had been joined before. -/
theorem Fragment.reverse_foldl_push_of_settled {written : List Fragment}
    (settled : Settled written.reverse) (pieces : List Fragment) :
    (pieces.foldl push written).reverse = join (written.reverse ++ join pieces) := by
  have apart := isChain_apart_foldl_push pieces (isChain_apart_reverse.mp settled.apart)
  rw [← join_of_isChain_apart (isChain_apart_reverse.mpr apart), join_reverse_foldl_push]
  exact join_append_congr _ (join_of_isChain_apart (isChain_apart_join pieces)).symm

namespace Resolver

variable {resolver : Resolver} {walk : Walk} {key : KeyPath}

theorem grownBy_of_adds {visits : Nat} {fragments : List Fragment} {tree : Unfolding}
    (adds : Walk.Adds (resolver.visit · key) walk visits fragments) (count : visits = tree.size)
    (joined : Fragment.join fragments = Fragment.join tree.fragments) :
    walk.GrownBy (walk.after visits fragments) tree (Fragment.join tree.fragments) where
  requested := rfl
  stack := rfl
  visits := congrArg (walk.visits + ·) count
  output := by
    rw [adds.counted, Unfolding.bytes, ← Fragment.totalBytes_join, joined,
      Fragment.totalBytes_join]
  written := by
    intro settled
    have whole : (walk.after visits fragments).written.reverse =
        Fragment.join (walk.written.reverse ++ Fragment.join tree.fragments) := by
      rw [← joined]
      exact Fragment.reverse_foldl_push_of_settled settled fragments
    refine ⟨whole, ?_⟩
    rw [whole]
    refine Fragment.settled_join fun content member => ?_
    rcases List.mem_append.mp member with before | own
    · exact settled.filled content before
    · exact (Fragment.settled_join fun _ => Unfolding.ne_empty_of_mem_fragments).filled content own

/-- An expansion that succeeds depends on the walk in nothing but that it succeeds. The walk
grows by the unfolding of the key and by what the key resolves to on its own, and the expansion
succeeds from every walk that is not so far, with the same origin. -/
theorem expand_additive (resolver : Resolver) (walk left : Walk) (key origin : KeyPath)
    (bounded : resolver.limits.maxOutputBytes < Walk.maxCount)
    (expanded : resolver.expand walk key = .ok (origin, left)) :
    (∃ tree own, resolver.Unfolds key tree ∧
      resolver.resolvePath key = .ok ⟨key, origin, own⟩ ∧ walk.GrownBy left tree own) ∧
    ∀ other : Walk, other.AtMost walk →
      ∃ grown, resolver.expand other key = .ok (origin, grown) := by
  obtain ⟨visited, redirects⟩ := expand_eq_ok_iff.mp expanded
  obtain ⟨visits, fragments, adds, rfl⟩ := exists_adds_of_visit bounded visited
  constructor
  · obtain ⟨tree, unfolds, within, count, joined⟩ := exists_unfolds_of_adds adds
    refine ⟨tree, Fragment.join tree.fragments, unfolds, ?_, grownBy_of_adds adds count joined⟩
    exact resolvePath_eq_ok_iff.mpr ⟨tree, unfolds, within, rfl, redirects, rfl⟩
  · intro other atMost
    exact ⟨_, expand_eq_ok_iff.mpr ⟨adds.alike other atMost, redirects⟩⟩

/-- The path of a text without references. -/
def partner : KeyPath := ⟨["partner"], by decide, by decide⟩

/-- The path of a template that refers to that text twice. -/
def couple : KeyPath := ⟨["couple"], by decide, by decide⟩

/-- The path of a template that refers to that template. -/
def invitation : KeyPath := ⟨["invitation"], by decide, by decide⟩

/-- The table of the three. -/
def invitationTable : Table where
  root := [("couple", .leaf (.literal (.ofSegments
      [.reference partner, .text " & ", .reference partner]))),
    ("invitation", .leaf (.literal (.ofSegments [.text "Dear ", .reference couple]))),
    ("partner", .leaf (.literal (.ofSegments [.text "Kim"])))]
  sound := by
    simp only [Namespace.Sound, Node.Sound]
    decide

/-- The walk that has come to the reference in the last template. -/
def inviting : Walk :=
  { requested := invitation, stack := [invitation], visits := 1, outputBytes := 5
    written := [.text "Dear "] }

/-- The walk behind that reference. -/
def invited : Walk :=
  { requested := invitation, stack := [invitation], visits := 4, outputBytes := 14
    written := [.text "Dear Kim & Kim"] }

/-- The template with the two references grows the walk by three entries and nine bytes, and it
expands at the start of a resolution too. -/
theorem expand_additive_inviting :
    (ofTable invitationTable).limits.maxOutputBytes < Walk.maxCount ∧
    (ofTable invitationTable).expand inviting couple = .ok (couple, invited) ∧
    Fragment.Settled inviting.written.reverse ∧
    (∃ tree own, (ofTable invitationTable).Unfolds couple tree ∧
      (ofTable invitationTable).resolvePath couple = .ok ⟨couple, couple, own⟩ ∧
      inviting.GrownBy invited tree own) ∧
    Walk.AtMost { requested := couple } inviting ∧
    ∃ grown, (ofTable invitationTable).expand { requested := couple } couple =
      .ok (couple, grown) := by
  have bounded : (ofTable invitationTable).limits.maxOutputBytes < Walk.maxCount := by
    decide +kernel
  have expanded : (ofTable invitationTable).expand inviting couple = .ok (couple, invited) := rfl
  have settled : Fragment.Settled inviting.written.reverse := by
    refine ⟨fun content member => ?_, List.isChain_singleton _⟩
    cases List.mem_singleton.mp member
    decide
  have start := Walk.atMost_start couple inviting
  obtain ⟨grows, elsewhere⟩ := expand_additive _ _ _ _ _ bounded expanded
  exact ⟨bounded, expanded, settled, grows, start, elsewhere _ start⟩

end Resolver

end Phrasebook
