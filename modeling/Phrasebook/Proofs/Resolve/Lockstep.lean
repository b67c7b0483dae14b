/-
This file compares the walks of two resolvers. One resolver follows another when it
finds every entry that the other finds, has limits that are no narrower, and also
fails where the other fails with an error that lasts. Which errors last is left open,
so the same comparison serves a resolver with more tables and one with wider limits.
Two such resolvers walk in step: with the same keys open and the same things written,
each step of one is a step of the other, until one fails with an error that does not
last. So a result that lasts is the result of both.
-/

import Phrasebook.Proofs.Resolve.Validation

namespace Phrasebook

/-- No bound of the first limits is above that of the second. -/
structure Limits.AtMost (narrow wide : Limits) : Prop where
  depth : narrow.maxRedirectDepth ≤ wide.maxRedirectDepth
  expansions : narrow.maxExpansions ≤ wide.maxExpansions
  output : narrow.maxOutputBytes ≤ wide.maxOutputBytes

theorem Limits.atMost_self (limits : Limits) : limits.AtMost limits :=
  ⟨le_rfl, le_rfl, le_rfl⟩

namespace Resolver

/-- The second resolver takes every step of the first and fails whenever the first fails with an
error that lasts. Errors that limits bring about can only last if the limits are the same. -/
structure FollowedBy (first second : Resolver) (lasting : ResolveError → Prop) : Prop where
  found : ∀ {key entry}, first.lookup key = some entry → second.lookup key = some entry
  wider : first.limits.AtMost second.limits
  unfound : ∀ {key path}, KeyPath.parse key = .ok path → first.lookup path = none →
    lasting (.keyNotFound key) → second.lookup path = none
  dangling : ∀ {holder target}, first.lookup target = none →
    lasting (.danglingReference holder target) → second.lookup target = none
  tooDeep : ∀ {walk : Walk} {key}, walk.stack.Nodup → key ∉ walk.stack →
    lasting (walk.cycle key) → second.limits = first.limits
  exhausted : ∀ {key limit budget}, lasting (.expansionLimit key limit budget) →
    second.limits = first.limits

/-- The result is no error that may pass. -/
def Lasts {Result : Type} (lasting : ResolveError → Prop) :
    Except ResolveError Result → Prop
  | .error fault => lasting fault
  | .ok _ => True

namespace FollowedBy

variable {first second : Resolver} {lasting : ResolveError → Prop} {walk : Walk} {key : KeyPath}

/-- Where the first resolver misses an entry for good, so does the second. -/
theorem lookup_eq_none (followed : first.FollowedBy second lasting)
    (absent : first.lookup key = none) (lasts : lasting (walk.missing key)) :
    second.lookup key = none := by
  unfold Walk.missing at lasts
  split at lasts
  · exact followed.unfound key.parse_dotted absent lasts
  · exact followed.dangling absent lasts

theorem admits (followed : first.FollowedBy second lasting) {entry : LeafEntry}
    (admitted : first.Admits walk key entry) : second.Admits walk key entry where
  fresh := admitted.fresh
  shallow := admitted.shallow.trans followed.wider.depth
  found := followed.found admitted.found
  affordable := admitted.affordable.trans followed.wider.expansions

theorem visit_of_refused (followed : first.FollowedBy second lasting)
    (distinct : walk.stack.Nodup)
    (refused : key ∈ walk.stack ∨ first.limits.maxRedirectDepth < walk.stack.length)
    (lasts : lasting (walk.cycle key)) : second.visit walk key = .error (walk.cycle key) := by
  by_cases member : key ∈ walk.stack
  · exact visit_refused (Or.inl member)
  · rw [← followed.tooDeep distinct member lasts] at refused
    exact visit_refused refused

/-- Each step of a visit that lasts is a step of the second resolver too. -/
theorem hereditary (followed : first.FollowedBy second lasting) : first.Hereditary
    (fun walk key result => walk.stack.Nodup → Lasts lasting result →
      second.visit walk key = result)
    (fun walk segments result => walk.stack.Nodup → Lasts lasting result →
      second.write segments walk = result) where
  refused := by
    intro walk key refused distinct lasts
    exact followed.visit_of_refused distinct refused lasts
  absent := by
    intro walk key fresh shallow absent _ lasts
    exact visit_absent fresh (shallow.trans followed.wider.depth)
      (followed.lookup_eq_none absent lasts)
  exhausted := by
    intro walk key entry fresh shallow found beyond _ lasts
    rw [← followed.exhausted lasts] at beyond ⊢
    exact visit_exhausted fresh (shallow.trans followed.wider.depth) (followed.found found) beyond
  admitted := by
    intro walk key entry written admitted _ writes distinct _
    have opened : (walk.opened key).stack.Nodup := List.nodup_cons.mpr ⟨admitted.fresh, distinct⟩
    rw [visit_admitted (followed.admits admitted), writes opened True.intro]
    rfl
  spoiled := by
    intro walk key entry fault admitted writes distinct lasts
    have opened : (walk.opened key).stack.Nodup := List.nodup_cons.mpr ⟨admitted.fresh, distinct⟩
    rw [visit_admitted (followed.admits admitted), writes opened lasts]
    rfl
  done := by
    intro walk _ _
    rfl
  overfull := by
    intro walk fragment rest beyond _ lasts
    rw [← followed.exhausted lasts] at beyond ⊢
    rw [write_ofFragment, if_pos beyond]
  wrote := by
    intro walk fragment rest result within writes distinct lasts
    rw [write_ofFragment, if_neg (Nat.not_lt.mpr (within.trans followed.wider.output))]
    exact writes distinct lasts
  broken := by
    intro walk target rest fault visits distinct lasts
    rw [write_reference, visits distinct lasts]
  followed := by
    intro walk target rest left result visited visits writes distinct lasts
    rw [write_reference, visits distinct True.intro]
    exact writes (by rwa [stack_of_visit visited]) lasts

/-! ### Resolutions -/

variable {path : KeyPath}

theorem redirectsTo (followed : first.FollowedBy second lasting) {origin : KeyPath}
    (redirects : first.RedirectsTo path origin) : second.RedirectsTo path origin := by
  induction redirects with
  | here found => exact .here (followed.found found)
  | next found _ inductionHypothesis => exact .next (followed.found found) inductionHypothesis

/-- A resolution of a path that lasts is that of both resolvers. -/
theorem resolvePath_eq (followed : first.FollowedBy second lasting)
    (lasts : Lasts lasting (first.resolvePath path)) :
    second.resolvePath path = first.resolvePath path := by
  have instep := followed.hereditary.visit { requested := path } path List.nodup_nil
  cases resolved : first.resolvePath path with
  | error fault =>
    rw [resolved] at lasts
    have failed := resolvePath_eq_error_iff.mp resolved
    rw [failed] at instep
    exact resolvePath_eq_error_iff.mpr (instep lasts)
  | ok resolution =>
    obtain ⟨origin, left, expanded, rfl⟩ := resolvePath_eq_ok_iff_expand.mp resolved
    obtain ⟨visited, redirects⟩ := expand_eq_ok_iff.mp expanded
    rw [visited] at instep
    refine resolvePath_eq_ok_iff_expand.mpr ⟨origin, left, ?_, rfl⟩
    exact expand_eq_ok_iff.mpr ⟨instep True.intro, followed.redirectsTo redirects⟩

/-- A resolution of a key that lasts is that of both resolvers. -/
theorem resolve_eq (followed : first.FollowedBy second lasting) {key : String}
    (lasts : Lasts lasting (first.resolve key)) : second.resolve key = first.resolve key := by
  cases parsed : KeyPath.parse key with
  | error fault => rw [resolve, resolve, parsed]
  | ok path =>
    cases found : first.lookup path with
    | none =>
      have absent := resolve_of_absent parsed found
      rw [absent] at lasts ⊢
      exact resolve_of_absent parsed (followed.unfound parsed found lasts)
    | some entry =>
      have present : (first.lookup path).isSome := by rw [found]; rfl
      have presentToo : (second.lookup path).isSome := by rw [followed.found found]; rfl
      rw [resolve_of_parse parsed present] at lasts ⊢
      rw [resolve_of_parse parsed presentToo, followed.resolvePath_eq lasts]

end FollowedBy

end Resolver

end Phrasebook
