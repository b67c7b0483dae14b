/-
This file opens up the expansion of keys. The expansion counts down the keys that
may still be opened inside one another, but since it leaves the open keys as it
found them, the count is a function of the walk and can be forgotten: visiting a
key obeys equations in which no count occurs. A property of visiting keys and
writing segments that each of these equations passes on holds of all visits, so
the induction over the expansion is done here once.
-/

import Mathlib.Tactic.SplitIfs
import Phrasebook.Proofs.Resolve.Unfolding

namespace Phrasebook

/-! ### What happens to a walk -/

namespace Walk

/-- The walk with the entry at `key` open. -/
def opened (walk : Walk) (key : KeyPath) : Walk :=
  { walk with stack := key :: walk.stack, visits := walk.visits + 1 }

/-- Adds the bytes of a fragment to a count. -/
def addBytes (total : Nat) (fragment : Fragment) : Nat :=
  min (total + fragment.bytes) maxCount

/-- The walk after so many more visits and these more fragments. -/
def after (walk : Walk) (visits : Nat) (fragments : List Fragment) : Walk :=
  { walk with
    visits := walk.visits + visits
    outputBytes := fragments.foldl addBytes walk.outputBytes
    written := fragments.foldl Fragment.push walk.written }

theorem after_after (walk : Walk) (first second : Nat) (earlier later : List Fragment) :
    (walk.after first earlier).after second later =
      walk.after (first + second) (earlier ++ later) := by
  simp only [after, List.foldl_append, Nat.add_assoc]

theorem leave_after_opened (walk : Walk) (key : KeyPath) (visits : Nat)
    (fragments : List Fragment) :
    ((walk.opened key).after visits fragments).leave = walk.after (visits + 1) fragments := by
  simp only [opened, after, leave, List.tail_cons]
  rw [Nat.add_assoc, Nat.add_comm 1 visits]

theorem enter_eq (walk : Walk) (limits : Limits) (key : KeyPath) :
    walk.enter limits key =
      if limits.maxExpansions < walk.visits + 1 then
        .error (.expansionLimit walk.requested limits.maxExpansions .visits)
      else .ok (walk.opened key) := rfl

theorem charge_eq (walk : Walk) (limits : Limits) (fragment : Fragment) :
    walk.charge limits fragment.bytes =
      if limits.maxOutputBytes < (walk.after 0 [fragment]).outputBytes then
        .error (.expansionLimit walk.requested limits.maxOutputBytes .output)
      else .ok { walk with outputBytes := (walk.after 0 [fragment]).outputBytes } := rfl

theorem writeText_eq (walk : Walk) (limits : Limits) (content : String) :
    walk.writeText limits content =
      if limits.maxOutputBytes < (walk.after 0 [.text content]).outputBytes then
        .error (.expansionLimit walk.requested limits.maxOutputBytes .output)
      else .ok (walk.after 0 [.text content]) := by
  have charged := charge_eq walk limits (.text content)
  rw [Fragment.bytes] at charged
  rw [writeText, charged]
  split_ifs <;> rfl

theorem writePlaceholder_eq (walk : Walk) (limits : Limits) (name : String) :
    walk.writePlaceholder limits name =
      if limits.maxOutputBytes < (walk.after 0 [.placeholder name]).outputBytes then
        .error (.expansionLimit walk.requested limits.maxOutputBytes .output)
      else .ok (walk.after 0 [.placeholder name]) := by
  have charged := charge_eq walk limits (.placeholder name)
  rw [Fragment.bytes] at charged
  rw [writePlaceholder, charged]
  split_ifs <;> rfl

end Walk

namespace Resolver

/-! ### Writing with any expansion of references -/

section Writing

variable {limits : Limits}
  {expandReference : Walk → KeyPath → Except ResolveError (KeyPath × Walk)}

theorem writeSegments_ofFragment (fragment : Fragment) (rest : List Segment) (walk : Walk) :
    writeSegments limits expandReference (.ofFragment fragment :: rest) walk =
      if limits.maxOutputBytes < (walk.after 0 [fragment]).outputBytes then
        .error (.expansionLimit walk.requested limits.maxOutputBytes .output)
      else writeSegments limits expandReference rest (walk.after 0 [fragment]) := by
  cases fragment with
  | text content =>
    rw [Segment.ofFragment, writeSegments, Walk.writeText_eq]
    split_ifs <;> rfl
  | placeholder name =>
    rw [Segment.ofFragment, writeSegments, Walk.writePlaceholder_eq]
    split_ifs <;> rfl

/-- Writing leaves the open keys as they are if expanding references does. -/
theorem stack_of_writeSegments
    (neutral : ∀ inner target origin left,
      expandReference inner target = .ok (origin, left) → left.stack = inner.stack)
    {segments : List Segment} {walk written : Walk}
    (wrote : writeSegments limits expandReference segments walk = .ok written) :
    written.stack = walk.stack := by
  induction segments generalizing walk with
  | nil =>
    cases wrote
    rfl
  | cons segment rest inductionHypothesis =>
    rcases segment.eq_ofFragment_or_reference with ⟨fragment, rfl⟩ | ⟨target, rfl⟩
    · rw [writeSegments_ofFragment] at wrote
      split at wrote
      · cases wrote
      · have same : written.stack = (walk.after 0 [fragment]).stack := inductionHypothesis wrote
        exact same
    · rw [writeSegments] at wrote
      split at wrote
      · cases wrote
      · rename_i origin left expanded
        exact (inductionHypothesis wrote).trans (neutral _ _ _ _ expanded)

/-- Two expansions of references that agree as long as these keys are open write the same. -/
theorem writeSegments_congr
    {other : Walk → KeyPath → Except ResolveError (KeyPath × Walk)}
    (neutral : ∀ inner target origin left,
      expandReference inner target = .ok (origin, left) → left.stack = inner.stack)
    {segments : List Segment} {walk : Walk}
    (agree : ∀ inner target, inner.stack = walk.stack →
      expandReference inner target = other inner target) :
    writeSegments limits expandReference segments walk =
      writeSegments limits other segments walk := by
  induction segments generalizing walk with
  | nil => rfl
  | cons segment rest inductionHypothesis =>
    rcases segment.eq_ofFragment_or_reference with ⟨fragment, rfl⟩ | ⟨target, rfl⟩
    · have same : writeSegments limits expandReference rest (walk.after 0 [fragment]) =
          writeSegments limits other rest (walk.after 0 [fragment]) :=
        inductionHypothesis agree
      rw [writeSegments_ofFragment, writeSegments_ofFragment, same]
    · rw [writeSegments, writeSegments, ← agree walk target rfl]
      split
      · rfl
      · rename_i origin left expanded
        refine inductionHypothesis fun inner target same => agree inner target ?_
        rw [same, neutral _ _ _ _ expanded]

end Writing

theorem stack_of_expandWithin {resolver : Resolver} {levels : Nat} {walk left : Walk}
    {key origin : KeyPath}
    (expanded : resolver.expandWithin levels walk key = .ok (origin, left)) :
    left.stack = walk.stack := by
  induction levels generalizing walk left key origin with
  | zero => cases expanded
  | succ levels inductionHypothesis =>
    rw [expandWithin] at expanded
    split at expanded
    · cases expanded
    · split at expanded
      · cases expanded
      · rename_i entry found
        rw [Walk.enter_eq] at expanded
        split at expanded
        · cases expanded
        · rename_i opened entered
          have openedStack : opened.stack = key :: walk.stack := by
            split at entered
            · cases entered
            · cases entered
              rfl
          split at expanded
          · split at expanded
            · cases expanded
            · rename_i inner
              cases expanded
              simp only [Walk.leave, inductionHypothesis inner, openedStack, List.tail_cons]
          · split at expanded
            · cases expanded
            · rename_i wrote
              cases expanded
              have writtenStack := stack_of_writeSegments
                (fun _ _ _ _ inner => inductionHypothesis inner) wrote
              simp only [Walk.leave, writtenStack, openedStack, List.tail_cons]

/-! ### Visiting keys and writing segments -/

/-- What expanding a key does to a walk. -/
def visit (resolver : Resolver) (walk : Walk) (key : KeyPath) : Except ResolveError Walk :=
  (resolver.expand walk key).map Prod.snd

/-- What writing segments does to a walk. -/
def write (resolver : Resolver) (segments : List Segment) (walk : Walk) :
    Except ResolveError Walk :=
  writeSegments resolver.limits resolver.expand segments walk

variable {resolver : Resolver} {walk : Walk} {key : KeyPath}

theorem visit_eq_ok_iff {left : Walk} :
    resolver.visit walk key = .ok left ↔
      ∃ origin, resolver.expand walk key = .ok (origin, left) := by
  unfold visit
  cases resolver.expand walk key with
  | error fault => simp [Except.map]
  | ok result => simp [Except.map, Prod.ext_iff]

/-- Visiting a key leaves the open keys as they are. -/
theorem stack_of_visit {left : Walk} (visited : resolver.visit walk key = .ok left) :
    left.stack = walk.stack := by
  obtain ⟨origin, expanded⟩ := visit_eq_ok_iff.mp visited
  exact stack_of_expandWithin expanded

theorem write_ofFragment (fragment : Fragment) (rest : List Segment) :
    resolver.write (.ofFragment fragment :: rest) walk =
      if resolver.limits.maxOutputBytes < (walk.after 0 [fragment]).outputBytes then
        .error (.expansionLimit walk.requested resolver.limits.maxOutputBytes .output)
      else resolver.write rest (walk.after 0 [fragment]) :=
  writeSegments_ofFragment fragment rest walk

theorem write_reference (target : KeyPath) (rest : List Segment) :
    resolver.write (.reference target :: rest) walk =
      match resolver.visit walk target with
      | .error fault => .error fault
      | .ok left => resolver.write rest left := by
  unfold write visit
  rw [writeSegments]
  cases resolver.expand walk target <;> rfl

/-- With one key more open, writing may count on one level less. -/
theorem writeSegments_expandWithin {levels : Nat} {segments : List Segment}
    (enough : resolver.limits.maxRedirectDepth + 1 - walk.stack.length = levels) :
    writeSegments resolver.limits (resolver.expandWithin levels) segments walk =
      resolver.write segments walk := by
  refine writeSegments_congr (fun _ _ _ _ expanded => stack_of_expandWithin expanded) ?_
  intro inner target same
  rw [expand, same, enough]

/-! ### The equations of a visit -/

/-- Nothing keeps the entry at a key from being opened. -/
structure Admits (resolver : Resolver) (walk : Walk) (key : KeyPath) (entry : LeafEntry) :
    Prop where
  fresh : key ∉ walk.stack
  shallow : walk.stack.length ≤ resolver.limits.maxRedirectDepth
  found : resolver.lookup key = some entry
  affordable : walk.visits + 1 ≤ resolver.limits.maxExpansions

/-- A key that is open, or that lies too deep, is refused. -/
theorem visit_refused
    (refused : key ∈ walk.stack ∨ resolver.limits.maxRedirectDepth < walk.stack.length) :
    resolver.visit walk key = .error (walk.cycle key) := by
  unfold visit expand
  cases enough : resolver.limits.maxRedirectDepth + 1 - walk.stack.length with
  | zero => rfl
  | succ levels =>
    rcases refused with member | deep
    · rw [expandWithin, if_pos (List.contains_iff_mem.mpr member)]
      rfl
    · omega

/-- With fewer keys open than allowed there is a level to count on. -/
theorem expand_of_shallow
    (shallow : walk.stack.length ≤ resolver.limits.maxRedirectDepth) :
    resolver.expand walk key =
      resolver.expandWithin (resolver.limits.maxRedirectDepth - walk.stack.length + 1) walk
        key := by
  rw [expand, Nat.sub_add_comm shallow]

theorem visit_absent (fresh : key ∉ walk.stack)
    (shallow : walk.stack.length ≤ resolver.limits.maxRedirectDepth)
    (absent : resolver.lookup key = none) :
    resolver.visit walk key = .error (walk.missing key) := by
  rw [visit, expand_of_shallow shallow, expandWithin,
    if_neg (mt List.contains_iff_mem.mp fresh), absent]
  rfl

theorem visit_exhausted {entry : LeafEntry} (fresh : key ∉ walk.stack)
    (shallow : walk.stack.length ≤ resolver.limits.maxRedirectDepth)
    (found : resolver.lookup key = some entry)
    (exhausted : resolver.limits.maxExpansions < walk.visits + 1) :
    resolver.visit walk key =
      .error (.expansionLimit walk.requested resolver.limits.maxExpansions .visits) := by
  rw [visit, expand_of_shallow shallow, expandWithin,
    if_neg (mt List.contains_iff_mem.mp fresh), found, Walk.enter_eq, if_pos exhausted]
  rfl

/-- A key that is admitted is opened, its entry is written, and it is closed again. -/
theorem visit_admitted {entry : LeafEntry} (admitted : resolver.Admits walk key entry) :
    resolver.visit walk key =
      (resolver.write entry.segments (walk.opened key)).map Walk.leave := by
  have enough : resolver.limits.maxRedirectDepth + 1 - (walk.opened key).stack.length =
      resolver.limits.maxRedirectDepth - walk.stack.length := by
    simp only [Walk.opened, List.length_cons]
    omega
  rw [visit, expand_of_shallow admitted.shallow, expandWithin,
    if_neg (mt List.contains_iff_mem.mp admitted.fresh), admitted.found, Walk.enter_eq,
    if_neg (Nat.not_lt.mpr admitted.affordable)]
  cases entry with
  | redirect target =>
    rw [LeafEntry.segments, write_reference, visit, expand, enough]
    simp only
    cases resolver.expandWithin (resolver.limits.maxRedirectDepth - walk.stack.length)
      (walk.opened key) target <;> rfl
  | literal template =>
    rw [LeafEntry.segments, ← writeSegments_expandWithin enough]
    simp only
    cases writeSegments resolver.limits (resolver.expandWithin
      (resolver.limits.maxRedirectDepth - walk.stack.length)) template.segments
      (walk.opened key) <;> rfl

/-! ### Induction over an expansion -/

/-- A property of visiting keys and a property of writing segments, each with the result, that
every equation of a visit passes on from the steps inside it to the whole. -/
structure Hereditary (resolver : Resolver)
    (visits : Walk → KeyPath → Except ResolveError Walk → Prop)
    (writes : Walk → List Segment → Except ResolveError Walk → Prop) : Prop where
  refused : ∀ {walk key},
    key ∈ walk.stack ∨ resolver.limits.maxRedirectDepth < walk.stack.length →
    visits walk key (.error (walk.cycle key))
  absent : ∀ {walk key}, key ∉ walk.stack →
    walk.stack.length ≤ resolver.limits.maxRedirectDepth → resolver.lookup key = none →
    visits walk key (.error (walk.missing key))
  exhausted : ∀ {walk key entry}, key ∉ walk.stack →
    walk.stack.length ≤ resolver.limits.maxRedirectDepth → resolver.lookup key = some entry →
    resolver.limits.maxExpansions < walk.visits + 1 →
    visits walk key
      (.error (.expansionLimit walk.requested resolver.limits.maxExpansions .visits))
  admitted : ∀ {walk key entry written}, resolver.Admits walk key entry →
    resolver.write entry.segments (walk.opened key) = .ok written →
    writes (walk.opened key) entry.segments (.ok written) → visits walk key (.ok written.leave)
  spoiled : ∀ {walk key entry fault}, resolver.Admits walk key entry →
    writes (walk.opened key) entry.segments (.error fault) → visits walk key (.error fault)
  done : ∀ {walk}, writes walk [] (.ok walk)
  overfull : ∀ {walk fragment rest},
    resolver.limits.maxOutputBytes < (walk.after 0 [fragment]).outputBytes →
    writes walk (.ofFragment fragment :: rest)
      (.error (.expansionLimit walk.requested resolver.limits.maxOutputBytes .output))
  wrote : ∀ {walk fragment rest result},
    (walk.after 0 [fragment]).outputBytes ≤ resolver.limits.maxOutputBytes →
    writes (walk.after 0 [fragment]) rest result →
    writes walk (.ofFragment fragment :: rest) result
  broken : ∀ {walk target rest fault}, visits walk target (.error fault) →
    writes walk (.reference target :: rest) (.error fault)
  followed : ∀ {walk target rest left result}, resolver.visit walk target = .ok left →
    visits walk target (.ok left) → writes left rest result →
    writes walk (.reference target :: rest) result

namespace Hereditary

variable {visits : Walk → KeyPath → Except ResolveError Walk → Prop}
  {writes : Walk → List Segment → Except ResolveError Walk → Prop}

/-- What holds of all visits with as many keys open holds of writing. -/
theorem write_of_visits (hereditary : resolver.Hereditary visits writes) {depth : Nat}
    (each : ∀ walk key, walk.stack.length = depth →
      visits walk key (resolver.visit walk key))
    (segments : List Segment) (walk : Walk) (level : walk.stack.length = depth) :
    writes walk segments (resolver.write segments walk) := by
  induction segments generalizing walk with
  | nil => exact hereditary.done
  | cons segment rest inductionHypothesis =>
    rcases segment.eq_ofFragment_or_reference with ⟨fragment, rfl⟩ | ⟨target, rfl⟩
    · rw [write_ofFragment]
      split_ifs with beyond
      · exact hereditary.overfull beyond
      · exact hereditary.wrote (Nat.not_lt.mp beyond) (inductionHypothesis _ level)
    · have visited := each walk target level
      rw [write_reference]
      cases result : resolver.visit walk target with
      | error fault => exact hereditary.broken (result ▸ visited)
      | ok left =>
        rw [result] at visited
        refine hereditary.followed result visited (inductionHypothesis left ?_)
        rw [stack_of_visit result, level]

/-- A hereditary property holds of every visit. The induction is on the number of keys that may
still be opened inside one another. -/
theorem visit (hereditary : resolver.Hereditary visits writes) (walk : Walk) (key : KeyPath) :
    visits walk key (resolver.visit walk key) := by
  by_cases refused : key ∈ walk.stack ∨
      resolver.limits.maxRedirectDepth < walk.stack.length
  · rw [visit_refused refused]
    exact hereditary.refused refused
  · rw [not_or, Nat.not_lt] at refused
    obtain ⟨fresh, shallow⟩ := refused
    cases found : resolver.lookup key with
    | none =>
      rw [visit_absent fresh shallow found]
      exact hereditary.absent fresh shallow found
    | some entry =>
      by_cases exhausted : resolver.limits.maxExpansions < walk.visits + 1
      · rw [visit_exhausted fresh shallow found exhausted]
        exact hereditary.exhausted fresh shallow found exhausted
      · have admitted : resolver.Admits walk key entry :=
          ⟨fresh, shallow, found, Nat.not_lt.mp exhausted⟩
        have written := hereditary.write_of_visits
          (fun inner target (_ : inner.stack.length = walk.stack.length + 1) =>
            hereditary.visit inner target)
          entry.segments (walk.opened key) rfl
        rw [visit_admitted admitted]
        cases result : resolver.write entry.segments (walk.opened key) with
        | error fault => exact hereditary.spoiled admitted (result ▸ written)
        | ok left => exact hereditary.admitted admitted result (result ▸ written)
termination_by resolver.limits.maxRedirectDepth + 1 - walk.stack.length
decreasing_by omega

/-- A hereditary property holds whenever segments are written. -/
theorem write (hereditary : resolver.Hereditary visits writes) (segments : List Segment)
    (walk : Walk) : writes walk segments (resolver.write segments walk) :=
  hereditary.write_of_visits (fun inner target _ => hereditary.visit inner target) segments walk
    rfl

end Hereditary

end Resolver

end Phrasebook
