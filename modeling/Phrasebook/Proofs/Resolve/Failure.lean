/-
This file shows that an error of a resolution tells the truth about the tables. A
walk is under way on a path when there is a reading of the path that has met as many
keys as the walk has visited, has passed as many bytes as it has written, and has
the rest of the work on its agenda. A key is next when the open keys are a way along
references from the path to it. Each step of a visit keeps both, so when a visit
fails, the reading and the way are there to show for it.
-/

import Mathlib.Data.List.Chain
import Mathlib.Data.List.Nodup
import Phrasebook.Proofs.Resolve.Agreement
import Phrasebook.Proofs.Resolve.Reading

namespace Phrasebook

/-! ### What an error says -/

/-- What the error says about resolving the path is the case. -/
def ResolveError.TrueOf (resolver : Resolver) (path : KeyPath) : ResolveError → Prop
  | .keyNotFound key => key = path.dotted ∧ ∀ table ∈ resolver.tables, table.get? path = none
  | .danglingReference key target =>
    resolver.Reaches path key ∧ resolver.Refers key target ∧
      ∀ table ∈ resolver.tables, table.get? target = none
  | .redirectCycle key chain =>
    key = path ∧ chain.head? = some path ∧ chain.IsChain resolver.Refers ∧
      chain.dropLast.Nodup ∧
      ((∃ last ∈ chain.getLast?, last ∈ chain.dropLast) ∨
        chain.length = resolver.limits.maxRedirectDepth + 2)
  | .expansionLimit key limit .visits =>
    key = path ∧ limit = resolver.limits.maxExpansions ∧
      ∃ keys fragments rest, resolver.Reads [.reference path] keys fragments rest ∧
        keys.length = resolver.limits.maxExpansions + 1
  | .expansionLimit key limit .output =>
    key = path ∧ limit = resolver.limits.maxOutputBytes ∧
      ∃ keys fragments rest, resolver.Reads [.reference path] keys fragments rest ∧
        resolver.limits.maxOutputBytes < Fragment.totalBytes fragments
  | .missingPlaceholder _ _ => False

namespace Resolver

variable {resolver : Resolver} {path : KeyPath} {walk : Walk}

theorem lookup_eq_none_iff {key : KeyPath} :
    resolver.lookup key = none ↔ ∀ table ∈ resolver.tables, table.get? key = none := by
  rw [lookup, List.findSome?_eq_none_iff]

/-! ### Walks under way -/

/-- The walk resolves the path, and the agenda is what is still to be written. -/
structure Underway (resolver : Resolver) (path : KeyPath) (walk : Walk)
    (agenda : List Segment) : Prop where
  requested : walk.requested = path
  distinct : walk.stack.Nodup
  shallow : walk.stack.length ≤ resolver.limits.maxRedirectDepth + 1
  affordable : walk.visits ≤ resolver.limits.maxExpansions
  account : ∃ keys fragments, resolver.Reads [.reference path] keys fragments agenda ∧
    keys.length = walk.visits ∧
    walk.outputBytes = min (Fragment.totalBytes fragments) Walk.maxCount

/-- The open keys and this one are a way along references from the path. -/
structure Next (resolver : Resolver) (path : KeyPath) (walk : Walk) (key : KeyPath) :
    Prop where
  start : (walk.stack.reverse ++ [key]).head? = some path
  linked : (walk.stack.reverse ++ [key]).IsChain resolver.Refers

theorem underway_start :
    resolver.Underway path { requested := path } [.reference path] :=
  ⟨rfl, List.nodup_nil, Nat.zero_le _, Nat.zero_le _, [], [], .stop, rfl, rfl⟩

theorem next_start : resolver.Next path { requested := path } path :=
  ⟨rfl, List.isChain_singleton path⟩

namespace Underway

variable {key : KeyPath} {entry : LeafEntry} {fragment : Fragment} {rest : List Segment}

/-- The key on top of the agenda has been met, once its entry is found. -/
theorem reads_of_found (underway : resolver.Underway path walk (.reference key :: rest))
    (found : resolver.lookup key = some entry) :
    ∃ keys fragments, resolver.Reads [.reference path] keys fragments
        (entry.segments ++ rest) ∧ keys.length = walk.visits + 1 ∧
      walk.outputBytes = min (Fragment.totalBytes fragments) Walk.maxCount := by
  obtain ⟨keys, fragments, reads, visits, output⟩ := underway.account
  refine ⟨keys ++ [key], fragments ++ [], reads.append (.entry found .stop), ?_, ?_⟩
  · rw [List.length_append, visits, List.length_singleton]
  · rw [List.append_nil, output]

/-- The fragment on top of the agenda has been passed. -/
theorem reads_fragment
    (underway : resolver.Underway path walk (.ofFragment fragment :: rest)) :
    ∃ keys fragments, resolver.Reads [.reference path] keys fragments rest ∧
      keys.length = walk.visits ∧
      (walk.after 0 [fragment]).outputBytes =
        min (Fragment.totalBytes fragments) Walk.maxCount := by
  obtain ⟨keys, fragments, reads, visits, output⟩ := underway.account
  have counted : walk.outputBytes ≤ Walk.maxCount := output ▸ Nat.min_le_right _ _
  have further := reads.append (Reads.ofFragment fragment .stop)
  rw [List.append_nil] at further
  refine ⟨keys, fragments ++ [fragment], further, visits, ?_⟩
  rw [Walk.outputBytes_after counted, output, Fragment.totalBytes_append]
  omega

theorem opened (underway : resolver.Underway path walk (.reference key :: rest))
    (admitted : resolver.Admits walk key entry) :
    resolver.Underway path (walk.opened key) (entry.segments ++ rest) where
  requested := underway.requested
  distinct := List.nodup_cons.mpr ⟨admitted.fresh, underway.distinct⟩
  shallow := Nat.succ_le_succ admitted.shallow
  affordable := admitted.affordable
  account := underway.reads_of_found admitted.found

theorem wrote (underway : resolver.Underway path walk (.ofFragment fragment :: rest)) :
    resolver.Underway path (walk.after 0 [fragment]) rest where
  requested := underway.requested
  distinct := underway.distinct
  shallow := underway.shallow
  affordable := underway.affordable
  account := underway.reads_fragment

theorem leave (underway : resolver.Underway path walk rest) :
    resolver.Underway path walk.leave rest where
  requested := underway.requested
  distinct := underway.distinct.tail
  shallow := List.length_tail ▸ (Nat.sub_le _ _).trans underway.shallow
  affordable := underway.affordable
  account := underway.account

end Underway

namespace Next

variable {key target : KeyPath}

/-- From a key that is next the way goes on to the keys its entry refers to. -/
theorem opened (next : resolver.Next path walk key) (refers : resolver.Refers key target) :
    resolver.Next path (walk.opened key) target := by
  have longer : (walk.opened key).stack.reverse ++ [target] =
      (walk.stack.reverse ++ [key]) ++ [target] := by
    rw [Walk.opened, List.reverse_cons]
  constructor
  · rw [longer, List.head?_append, next.start]
    rfl
  · rw [longer]
    refine List.isChain_append.mpr ⟨next.linked, List.isChain_singleton target, ?_⟩
    intro last lastMember first firstMember
    rw [List.getLast?_append, List.getLast?_singleton] at lastMember
    cases lastMember
    cases firstMember
    exact refers

/-- With an entry open, the keys it refers to are next. -/
theorem of_admitted {entry : LeafEntry} (next : resolver.Next path walk key)
    (admitted : resolver.Admits walk key entry) :
    ∀ target ∈ Segment.targets entry.segments, resolver.Next path (walk.opened key) target := by
  intro target member
  rw [← LeafEntry.targets_eq] at member
  exact next.opened ⟨entry, admitted.found, member⟩

theorem of_stack_eq {other : Walk} (next : resolver.Next path walk key)
    (same : other.stack = walk.stack) : resolver.Next path other key := by
  obtain ⟨start, linked⟩ := next
  rw [← same] at start linked
  exact ⟨start, linked⟩

/-- The key that was opened last lies on the way and refers to the next. -/
theorem of_stack_eq_cons {holder : KeyPath} {older : List KeyPath}
    (next : resolver.Next path walk key) (stack : walk.stack = holder :: older) :
    resolver.Reaches path holder ∧ resolver.Refers holder key := by
  obtain ⟨start, linked⟩ := next
  rw [stack, List.reverse_cons, List.append_assoc, List.singleton_append] at start linked
  obtain ⟨way, refers, -⟩ := List.isChain_append_cons_cons.mp linked
  refine ⟨?_, refers⟩
  have first : (older.reverse ++ [holder]).head (by simp) = path := by
    refine Option.some.inj ?_
    rw [← List.head?_eq_some_head, ← start]
    cases older.reverse <;> rfl
  have reaches := List.relationReflTransGen_of_exists_isChain _ way (by simp)
  rw [first, List.getLast_concat] at reaches
  exact reaches

end Next

/-! ### Failures -/

theorem cycle_trueOf {key : KeyPath} {rest : List Segment}
    (underway : resolver.Underway path walk rest) (next : resolver.Next path walk key)
    (refused : key ∈ walk.stack ∨ resolver.limits.maxRedirectDepth < walk.stack.length) :
    (walk.cycle key).TrueOf resolver path := by
  rw [Walk.cycle, underway.requested]
  refine ⟨rfl, next.start, next.linked, ?_, ?_⟩
  · rw [List.dropLast_concat, List.nodup_reverse]
    exact underway.distinct
  · rw [List.dropLast_concat, List.getLast?_concat]
    rcases refused with member | deep
    · exact Or.inl ⟨key, rfl, List.mem_reverse.mpr member⟩
    · refine Or.inr ?_
      have shallow := underway.shallow
      rw [List.length_append, List.length_reverse, List.length_singleton]
      omega

theorem missing_trueOf {key : KeyPath} (next : resolver.Next path walk key)
    (absent : resolver.lookup key = none) : (walk.missing key).TrueOf resolver path := by
  unfold Walk.missing
  cases stack : walk.stack with
  | nil =>
    have start := next.start
    rw [stack] at start
    cases start
    exact ⟨rfl, lookup_eq_none_iff.mp absent⟩
  | cons holder older =>
    obtain ⟨reaches, refers⟩ := next.of_stack_eq_cons stack
    exact ⟨reaches, refers, lookup_eq_none_iff.mp absent⟩

theorem visits_trueOf {key : KeyPath} {entry : LeafEntry} {rest : List Segment}
    (underway : resolver.Underway path walk (.reference key :: rest))
    (found : resolver.lookup key = some entry)
    (exhausted : resolver.limits.maxExpansions < walk.visits + 1) :
    (ResolveError.expansionLimit walk.requested resolver.limits.maxExpansions .visits).TrueOf
      resolver path := by
  obtain ⟨keys, fragments, reads, visits, -⟩ := underway.reads_of_found found
  refine ⟨underway.requested, rfl, keys, fragments, _, reads, ?_⟩
  have affordable := underway.affordable
  omega

theorem output_trueOf {fragment : Fragment} {rest : List Segment}
    (underway : resolver.Underway path walk (.ofFragment fragment :: rest))
    (beyond : resolver.limits.maxOutputBytes < (walk.after 0 [fragment]).outputBytes) :
    (ResolveError.expansionLimit walk.requested resolver.limits.maxOutputBytes .output).TrueOf
      resolver path := by
  obtain ⟨keys, fragments, reads, -, output⟩ := underway.reads_fragment
  refine ⟨underway.requested, rfl, keys, fragments, _, reads, ?_⟩
  rw [output] at beyond
  exact lt_of_lt_of_le beyond (Nat.min_le_left _ _)

/-- The walk is under way with what is left to write, or the error is true. -/
def Honest (resolver : Resolver) (path : KeyPath) (rest : List Segment) :
    Except ResolveError Walk → Prop
  | .error fault => fault.TrueOf resolver path
  | .ok left => resolver.Underway path left rest

/-- Each step of a visit either keeps the walk under way or fails with a true error. -/
theorem hereditary_honest (resolver : Resolver) (path : KeyPath) : resolver.Hereditary
    (fun walk key result => ∀ rest, resolver.Underway path walk (.reference key :: rest) →
      resolver.Next path walk key → resolver.Honest path rest result)
    (fun walk segments result => ∀ rest, resolver.Underway path walk (segments ++ rest) →
      (∀ target ∈ Segment.targets segments, resolver.Next path walk target) →
        resolver.Honest path rest result) where
  refused := by
    intro walk key refused rest underway next
    exact cycle_trueOf underway next refused
  absent := by
    intro walk key _ _ absent rest _ next
    exact missing_trueOf next absent
  exhausted := by
    intro walk key entry _ _ found exhausted rest underway _
    exact visits_trueOf underway found exhausted
  admitted := by
    intro walk key entry written admitted _ writes rest underway next
    have left := writes rest (underway.opened admitted) (next.of_admitted admitted)
    exact left.leave
  spoiled := by
    intro walk key entry fault admitted writes rest underway next
    exact writes rest (underway.opened admitted) (next.of_admitted admitted)
  done := by
    intro walk rest underway _
    exact underway
  overfull := by
    intro walk fragment segments beyond rest underway _
    exact output_trueOf underway beyond
  wrote := by
    intro walk fragment segments result _ writes rest underway next
    rw [Segment.targets_ofFragment] at next
    exact writes rest underway.wrote fun target member => (next target member).of_stack_eq rfl
  broken := by
    intro walk target segments fault visits rest underway next
    exact visits (segments ++ rest) underway (next target List.mem_cons_self)
  followed := by
    intro walk target segments left result visited visits writes rest underway next
    have onward := visits (segments ++ rest) underway (next target List.mem_cons_self)
    refine writes rest onward fun later member => ?_
    exact (next later (List.mem_cons_of_mem _ member)).of_stack_eq (stack_of_visit visited)

/-- Resolving a path fails as visiting it at the start does. -/
theorem resolvePath_eq_error_iff {fault : ResolveError} :
    resolver.resolvePath path = .error fault ↔
      resolver.visit { requested := path } path = .error fault := by
  unfold resolvePath visit
  cases resolver.expand { requested := path } path <;> simp [Except.map]

theorem visit_start_of_resolvePath {fault : ResolveError}
    (failed : resolver.resolvePath path = .error fault) :
    resolver.visit { requested := path } path = .error fault :=
  resolvePath_eq_error_iff.mp failed

/-- A resolution starts under way, so it ends with a true error if it ends with an error. -/
theorem trueOf_of_visit_start {fault : ResolveError}
    (failed : resolver.visit { requested := path } path = .error fault) :
    fault.TrueOf resolver path := by
  have honest := (hereditary_honest resolver path).visit { requested := path } path []
    underway_start next_start
  rw [failed] at honest
  exact honest

/-- A path at which some table has an entry is not reported as missing itself. -/
theorem resolvePath_ne_keyNotFound (found : (resolver.lookup path).isSome) (key : String) :
    resolver.resolvePath path ≠ .error (.keyNotFound key) := by
  intro failed
  obtain ⟨-, absent⟩ := trueOf_of_visit_start (visit_start_of_resolvePath failed)
  rw [lookup_eq_none_iff.mpr absent] at found
  cases found

/-- Resolving a path fails only with an error that is true of the path. -/
theorem trueOf_of_resolvePath_eq_error (resolver : Resolver) (path : KeyPath)
    (fault : ResolveError) (failed : resolver.resolvePath path = .error fault) :
    fault.TrueOf resolver path :=
  trueOf_of_visit_start (visit_start_of_resolvePath failed)

/-- A path of one segment whose entry refers to itself. -/
def loop : KeyPath := ⟨["loop"], by decide, by decide⟩

/-- The table with nothing but the entry that refers to itself. -/
def loopTable : Table :=
  ⟨[("loop", .leaf (.redirect loop))], by
    rw [Namespace.Sound, Node.Sound, Namespace.Sound]
    exact ⟨by decide, by simp, True.intro, True.intro⟩⟩

theorem trueOf_loop :
    (ofTable loopTable).resolvePath loop = .error (.redirectCycle loop [loop, loop]) ∧
      (ResolveError.redirectCycle loop [loop, loop]).TrueOf (ofTable loopTable) loop := by
  have failed : (ofTable loopTable).resolvePath loop =
      .error (.redirectCycle loop [loop, loop]) := by decide
  exact ⟨failed, trueOf_of_resolvePath_eq_error _ _ _ failed⟩

end Resolver

end Phrasebook
