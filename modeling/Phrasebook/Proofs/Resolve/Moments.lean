/-
This file takes a resolution apart into its single moments. At each moment a walk has
an agenda, the segments still to be written and the entries still to be closed, and one
task of it is done at a time. Nothing here counts down, so that a resolution comes to an
end at all is something to show: its moments follow one another until a last one, and
the result there is that of the expansion. At every moment the open keys are distinct
keys with entries, so there are no more of them than keys, and no more than the limits
allow.
-/

import Mathlib.Data.List.Dedup
import Mathlib.Data.List.Perm.Subperm
import Phrasebook.Proofs.Resolve.Expansion
import Phrasebook.Proofs.Resolve.Validation

namespace Phrasebook

namespace Resolver

/-! ### Moments -/

/-- Something a walk has still to do. -/
inductive Task
  | write (segment : Segment)
  /-- Close the innermost entry. -/
  | leave

/-- A moment of a walk. -/
inductive Moment
  /-- The walk has these tasks. -/
  | working (walk : Walk) (agenda : List Task)
  /-- The entry at a key has been found and its visit counted, and is not open yet. -/
  | counted (walk : Walk) (key : KeyPath) (entry : LeafEntry) (agenda : List Task)

namespace Moment

/-- The walk at a moment. -/
def walk : Moment → Walk
  | working walk _ => walk
  | counted walk _ _ _ => walk

/-- The first moment of resolving a path. -/
def start (path : KeyPath) : Moment :=
  working { requested := path } [.write (.reference path)]

end Moment

/-- What comes after a moment: another one, or the result. -/
inductive Onward
  | moment (next : Moment)
  | result (outcome : Except ResolveError Walk)

/-- Goes on after something has been written, if it has been. -/
def Onward.ofWritten (agenda : List Task) : Except ResolveError Walk → Onward
  | .error fault => .result (.error fault)
  | .ok written => .moment (.working written agenda)

/-- Does the next task. -/
def advance (resolver : Resolver) : Moment → Onward
  | .working walk [] => .result (.ok walk)
  | .working walk (.leave :: rest) => .moment (.working walk.leave rest)
  | .working walk (.write (.text content) :: rest) =>
    .ofWritten rest (walk.writeText resolver.limits content)
  | .working walk (.write (.placeholder name) :: rest) =>
    .ofWritten rest (walk.writePlaceholder resolver.limits name)
  | .working walk (.write (.reference key) :: rest) =>
    if key ∈ walk.stack ∨ resolver.limits.maxRedirectDepth < walk.stack.length then
      .result (.error (walk.cycle key))
    else
      match resolver.lookup key with
      | none => .result (.error (walk.missing key))
      | some entry => .moment (.counted { walk with visits := walk.visits + 1 } key entry rest)
  | .counted walk key entry rest =>
    if resolver.limits.maxExpansions < walk.visits then
      .result (.error (.expansionLimit walk.requested resolver.limits.maxExpansions .visits))
    else
      .moment (.working { walk with stack := key :: walk.stack }
        (entry.segments.map .write ++ .leave :: rest))

/-- One moment comes right after another. -/
def Follows (resolver : Resolver) (next moment : Moment) : Prop :=
  resolver.advance moment = .moment next

/-- The walk comes from one moment to another, if only by staying there. -/
def ComesTo (resolver : Resolver) : Moment → Moment → Prop :=
  Relation.ReflTransGen fun moment next => resolver.Follows next moment

/-- The moment is the last one, with a result. -/
def Ends (resolver : Resolver) (moment : Moment) (outcome : Except ResolveError Walk) : Prop :=
  resolver.advance moment = .result outcome

/-- The walk comes from a moment to a last one, with a result. -/
def EndsIn (resolver : Resolver) (moment : Moment) (outcome : Except ResolveError Walk) : Prop :=
  ∃ last, resolver.ComesTo moment last ∧ resolver.Ends last outcome

variable {resolver : Resolver}

/-! ### Resolutions end -/

/-- From a moment from which the walk ends, no moments follow one another forever. -/
theorem EndsIn.acc {moment : Moment} {outcome : Except ResolveError Walk}
    (ends : resolver.EndsIn moment outcome) : Acc resolver.Follows moment := by
  obtain ⟨last, comes, ended⟩ := ends
  induction comes using Relation.ReflTransGen.head_induction_on with
  | refl =>
    refine Acc.intro _ fun next follows => ?_
    rw [Follows, ended] at follows
    cases follows
  | head first _ inductionHypothesis =>
    refine Acc.intro _ fun next follows => ?_
    rw [Follows, first] at follows
    cases follows
    exact inductionHypothesis

theorem EndsIn.unique {moment : Moment} {first second : Except ResolveError Walk}
    (ends : resolver.EndsIn moment first) (also : resolver.EndsIn moment second) :
    first = second := by
  obtain ⟨last, comes, ended⟩ := ends
  induction comes using Relation.ReflTransGen.head_induction_on with
  | refl =>
    obtain ⟨other, onward, endedOther⟩ := also
    rcases onward.cases_head with rfl | ⟨next, follows, -⟩
    · rw [Ends, ended] at endedOther
      cases endedOther
      rfl
    · rw [Follows, ended] at follows
      cases follows
  | head step _ inductionHypothesis =>
    obtain ⟨other, onward, endedOther⟩ := also
    rcases onward.cases_head with rfl | ⟨next, follows, onward⟩
    · rw [Ends, step] at endedOther
      cases endedOther
    · rw [Follows, step] at follows
      cases follows
      exact inductionHypothesis ⟨other, onward, endedOther⟩

/-- With more tasks behind it, the walk does what it has to and goes on, or fails. -/
def Carries (resolver : Resolver) (moment : Moment) (rest : List Task) :
    Except ResolveError Walk → Prop
  | .error fault => resolver.EndsIn moment (.error fault)
  | .ok left => resolver.ComesTo moment (.working left rest)

theorem Carries.head {moment next : Moment} {rest : List Task}
    {outcome : Except ResolveError Walk} (follows : resolver.Follows next moment)
    (carries : resolver.Carries next rest outcome) : resolver.Carries moment rest outcome := by
  cases outcome with
  | error fault =>
    obtain ⟨last, comes, ended⟩ := carries
    exact ⟨last, .head follows comes, ended⟩
  | ok left => exact Relation.ReflTransGen.head follows carries

theorem Carries.trans {moment : Moment} {left : Walk} {middle rest : List Task}
    {outcome : Except ResolveError Walk} (first : resolver.Carries moment middle (.ok left))
    (second : resolver.Carries (.working left middle) rest outcome) :
    resolver.Carries moment rest outcome := by
  cases outcome with
  | error fault =>
    obtain ⟨last, comes, ended⟩ := second
    exact ⟨last, Relation.ReflTransGen.trans first comes, ended⟩
  | ok left => exact Relation.ReflTransGen.trans first second

theorem advance_ofFragment (walk : Walk) (fragment : Fragment) (rest : List Task) :
    resolver.advance (.working walk (.write (.ofFragment fragment) :: rest)) =
      if resolver.limits.maxOutputBytes < (walk.after 0 [fragment]).outputBytes then
        .result (.error (.expansionLimit walk.requested resolver.limits.maxOutputBytes .output))
      else .moment (.working (walk.after 0 [fragment]) rest) := by
  cases fragment with
  | text content =>
    rw [Segment.ofFragment, advance, Walk.writeText_eq]
    split_ifs <;> rfl
  | placeholder name =>
    rw [Segment.ofFragment, advance, Walk.writePlaceholder_eq]
    split_ifs <;> rfl

/-- A key that may be visited is counted, and then its entry is opened. -/
theorem carries_of_admitted {walk : Walk} {key : KeyPath} {entry : LeafEntry} {rest : List Task}
    {outcome : Except ResolveError Walk} (admitted : resolver.Admits walk key entry)
    (carries : resolver.Carries
      (.working (walk.opened key) (entry.segments.map .write ++ .leave :: rest)) rest outcome) :
    resolver.Carries (.working walk (.write (.reference key) :: rest)) rest outcome := by
  have free : ¬(key ∈ walk.stack ∨ resolver.limits.maxRedirectDepth < walk.stack.length) :=
    not_or.mpr ⟨admitted.fresh, Nat.not_lt.mpr admitted.shallow⟩
  have counts : resolver.Follows (.counted { walk with visits := walk.visits + 1 } key entry rest)
      (.working walk (.write (.reference key) :: rest)) := by
    rw [Follows, advance, if_neg free, admitted.found]
  have opens : resolver.Follows
      (.working (walk.opened key) (entry.segments.map .write ++ .leave :: rest))
      (.counted { walk with visits := walk.visits + 1 } key entry rest) := by
    rw [Follows, advance, if_neg (Nat.not_lt.mpr admitted.affordable)]
    rfl
  exact Carries.head counts (Carries.head opens carries)

/-- The moments of a visit lead to its result. -/
theorem hereditary_carries (resolver : Resolver) : resolver.Hereditary
    (fun walk key outcome => ∀ rest,
      resolver.Carries (.working walk (.write (.reference key) :: rest)) rest outcome)
    (fun walk segments outcome => ∀ rest,
      resolver.Carries (.working walk (segments.map .write ++ rest)) rest outcome) where
  refused := by
    intro walk key refused rest
    exact ⟨_, .refl, by rw [Ends, advance, if_pos refused]⟩
  absent := by
    intro walk key fresh shallow absent rest
    refine ⟨_, .refl, ?_⟩
    rw [Ends, advance, if_neg (not_or.mpr ⟨fresh, Nat.not_lt.mpr shallow⟩), absent]
  exhausted := by
    intro walk key entry fresh shallow found exhausted rest
    refine ⟨.counted { walk with visits := walk.visits + 1 } key entry rest, .single ?_, ?_⟩
    · rw [Follows, advance, if_neg (not_or.mpr ⟨fresh, Nat.not_lt.mpr shallow⟩), found]
    · rw [Ends, advance, if_pos exhausted]
  admitted := by
    intro walk key entry written admitted _ carries rest
    refine carries_of_admitted admitted ((carries (.leave :: rest)).trans ?_)
    exact Relation.ReflTransGen.single rfl
  spoiled := by
    intro walk key entry fault admitted carries rest
    exact carries_of_admitted admitted (carries (.leave :: rest))
  done := by
    intro walk rest
    exact .refl
  overfull := by
    intro walk fragment segments beyond rest
    exact ⟨_, .refl, by rw [Ends, List.map_cons, List.cons_append, advance_ofFragment,
      if_pos beyond]⟩
  wrote := by
    intro walk fragment segments outcome within carries rest
    refine Carries.head ?_ (carries rest)
    rw [Follows, List.map_cons, List.cons_append, advance_ofFragment,
      if_neg (Nat.not_lt.mpr within)]
  broken := by
    intro walk target segments fault carries rest
    exact carries (segments.map .write ++ rest)
  followed := by
    intro walk target segments left outcome _ visits writes rest
    exact (visits (segments.map .write ++ rest)).trans (writes rest)

/-- Resolving a path comes to its end, with the result of the expansion. -/
theorem endsIn_start (resolver : Resolver) (path : KeyPath) :
    resolver.EndsIn (.start path)
      ((resolver.expand { requested := path } path).map Prod.snd) := by
  have carries := (hereditary_carries resolver).visit { requested := path } path []
  rw [visit] at carries
  cases expanded : (resolver.expand { requested := path } path).map Prod.snd with
  | error fault =>
    rw [expanded] at carries
    exact carries
  | ok left =>
    rw [expanded] at carries
    exact ⟨_, carries, rfl⟩

/-! ### What holds at each moment -/

/-- The paths at which some table has an entry, each once. -/
def distinctKeys (resolver : Resolver) : List KeyPath :=
  (resolver.tables.flatMap Table.keys).dedup

/-- The open keys are distinct keys with entries, and no more than the limits allow. -/
structure Orderly (resolver : Resolver) (walk : Walk) : Prop where
  distinct : walk.stack.Nodup
  held : ∀ key ∈ walk.stack, (resolver.lookup key).isSome
  shallow : walk.stack.length ≤ resolver.limits.maxRedirectDepth + 1

/-- What holds at a moment. Between counting a visit and opening the entry, the entry can still
be opened, but the budget of visits may just have been exceeded. -/
def Sound (resolver : Resolver) : Moment → Prop
  | .working walk _ => resolver.Orderly walk ∧ walk.visits ≤ resolver.limits.maxExpansions
  | .counted walk key entry _ =>
    resolver.Orderly walk ∧ walk.visits ≤ resolver.limits.maxExpansions + 1 ∧
      key ∉ walk.stack ∧ walk.stack.length ≤ resolver.limits.maxRedirectDepth ∧
      resolver.lookup key = some entry

theorem Orderly.leave {walk : Walk} (orderly : resolver.Orderly walk) :
    resolver.Orderly walk.leave where
  distinct := orderly.distinct.tail
  held := fun key member => orderly.held key (List.mem_of_mem_tail member)
  shallow := List.length_tail ▸ (Nat.sub_le _ _).trans orderly.shallow

theorem Sound.opened {walk : Walk} {key : KeyPath} {entry : LeafEntry} {agenda : List Task}
    (sound : resolver.Sound (.counted walk key entry agenda)) :
    resolver.Orderly { walk with stack := key :: walk.stack } := by
  obtain ⟨orderly, -, fresh, shallow, found⟩ := sound
  refine ⟨List.nodup_cons.mpr ⟨fresh, orderly.distinct⟩, ?_, Nat.succ_le_succ shallow⟩
  refine List.forall_mem_cons.mpr ⟨?_, orderly.held⟩
  rw [found]
  rfl

/-- Each task keeps what holds. -/
theorem Sound.follows {moment next : Moment} (sound : resolver.Sound moment)
    (follows : resolver.Follows next moment) : resolver.Sound next := by
  rw [Follows] at follows
  match moment with
  | .working walk [] => cases follows
  | .working walk (.leave :: rest) =>
    cases follows
    exact ⟨sound.1.leave, sound.2⟩
  | .working walk (.write segment :: rest) =>
    rcases segment.eq_ofFragment_or_reference with ⟨fragment, rfl⟩ | ⟨key, rfl⟩
    · rw [advance_ofFragment] at follows
      split at follows
      · cases follows
      · cases follows
        obtain ⟨⟨distinct, held, shallow⟩, affordable⟩ := sound
        exact ⟨⟨distinct, held, shallow⟩, affordable⟩
    · rw [advance] at follows
      split at follows
      · cases follows
      · rename_i admissible
        rw [not_or, Nat.not_lt] at admissible
        split at follows
        · cases follows
        · rename_i entry found
          cases follows
          obtain ⟨⟨distinct, held, shallow⟩, affordable⟩ := sound
          exact ⟨⟨distinct, held, shallow⟩, Nat.succ_le_succ affordable, admissible.1,
            admissible.2, found⟩
  | .counted walk key entry rest =>
    rw [advance] at follows
    split at follows
    · cases follows
    · rename_i affordable
      cases follows
      exact ⟨sound.opened, Nat.not_lt.mp affordable⟩

theorem sound_start (path : KeyPath) : resolver.Sound (.start path) :=
  ⟨⟨List.nodup_nil, (fun _ member => nomatch member), Nat.zero_le _⟩, Nat.zero_le _⟩

/-- What holds at the start of a resolution holds at each of its moments. -/
theorem sound_of_comesTo {path : KeyPath} {moment : Moment}
    (comes : resolver.ComesTo (.start path) moment) : resolver.Sound moment := by
  induction comes with
  | refl => exact sound_start path
  | tail _ follows inductionHypothesis => exact inductionHypothesis.follows follows

theorem Sound.orderly {moment : Moment} (sound : resolver.Sound moment) :
    resolver.Orderly moment.walk := by
  cases moment with
  | working walk agenda => exact sound.1
  | counted walk key entry agenda => exact sound.1

theorem Sound.visits_le {moment : Moment} (sound : resolver.Sound moment) :
    moment.walk.visits ≤ resolver.limits.maxExpansions + 1 := by
  cases moment with
  | working walk agenda => exact sound.2.trans (Nat.le_succ _)
  | counted walk key entry agenda => exact sound.2.1

theorem mem_distinctKeys_iff {key : KeyPath} :
    key ∈ resolver.distinctKeys ↔ (resolver.lookup key).isSome := by
  rw [distinctKeys, List.mem_dedup, List.mem_flatMap, isSome_lookup_iff]

/-- Distinct keys with entries are no more than there are. -/
theorem Orderly.length_le {walk : Walk} (orderly : resolver.Orderly walk) :
    walk.stack.length ≤ resolver.distinctKeys.length :=
  (List.subperm_of_subset orderly.distinct fun key member =>
    mem_distinctKeys_iff.mpr (orderly.held key member)).length_le

/-- Resolving a path ends, whatever the references in the tables are: from its first moment no
moments follow one another forever, and the last has the result of the expansion. At each of
them the open keys are distinct, have entries, and are no more than one above the greatest depth
and no more than the keys of all tables; and the visits are no more than one above the greatest
number, so they can be counted. -/
theorem resolution_terminates (resolver : Resolver) (path : KeyPath) :
    Acc resolver.Follows (.start path) ∧
    (∀ outcome, resolver.EndsIn (.start path) outcome ↔
      (resolver.expand { requested := path } path).map Prod.snd = outcome) ∧
    ∀ moment, resolver.ComesTo (.start path) moment →
      moment.walk.stack.Nodup ∧
      (∀ key ∈ moment.walk.stack, (resolver.lookup key).isSome) ∧
      moment.walk.stack.length ≤
        min (resolver.limits.maxRedirectDepth + 1) resolver.distinctKeys.length ∧
      moment.walk.visits ≤ resolver.limits.maxExpansions + 1 ∧
      (resolver.limits.maxExpansions < Walk.maxCount → moment.walk.visits ≤ Walk.maxCount) := by
  have ends := resolver.endsIn_start path
  refine ⟨ends.acc, fun outcome => ⟨ends.unique, fun same => same ▸ ends⟩, fun moment comes => ?_⟩
  have sound := sound_of_comesTo comes
  obtain ⟨distinct, held, shallow⟩ := sound.orderly
  refine ⟨distinct, held, le_min shallow sound.orderly.length_le, sound.visits_le, ?_⟩
  intro bounded
  exact sound.visits_le.trans bounded

end Resolver

end Phrasebook
