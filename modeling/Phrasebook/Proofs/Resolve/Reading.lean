/-
This file reads what a path stands for from left to right. A reading has an agenda
of segments. It passes a text or a placeholder, and in the place of a reference it
puts the entry there, so it meets the keys of an unfolding from top to bottom and
from left to right. Unlike an unfolding a reading can stop anywhere, and so it can
also tell how far one comes along references that never end.
-/

import Phrasebook.Proofs.Resolve.Unfolding

namespace Phrasebook

namespace Resolver

/-- Reading the first segments meets these keys, each with an entry, passes these fragments,
and leaves the last segments to be read. -/
inductive Reads (resolver : Resolver) :
    List Segment → List KeyPath → List Fragment → List Segment → Prop
  | stop {agenda : List Segment} : Reads resolver agenda [] [] agenda
  | text {content : String} {rest left : List Segment} {keys : List KeyPath}
      {fragments : List Fragment} (onward : Reads resolver rest keys fragments left) :
      Reads resolver (.text content :: rest) keys (.text content :: fragments) left
  | placeholder {name : String} {rest left : List Segment} {keys : List KeyPath}
      {fragments : List Fragment} (onward : Reads resolver rest keys fragments left) :
      Reads resolver (.placeholder name :: rest) keys (.placeholder name :: fragments) left
  | entry {key : KeyPath} {entry : LeafEntry} {rest left : List Segment} {keys : List KeyPath}
      {fragments : List Fragment} (found : resolver.lookup key = some entry)
      (onward : Reads resolver (entry.segments ++ rest) keys fragments left) :
      Reads resolver (.reference key :: rest) (key :: keys) fragments left

variable {resolver : Resolver} {agenda middle left : List Segment}
  {keys moreKeys : List KeyPath} {fragments moreFragments : List Fragment}

namespace Reads

theorem ofFragment (fragment : Fragment)
    (onward : resolver.Reads agenda keys fragments left) :
    resolver.Reads (.ofFragment fragment :: agenda) keys (fragment :: fragments) left := by
  cases fragment with
  | text content => exact text onward
  | placeholder name => exact placeholder onward

theorem append (first : resolver.Reads agenda keys fragments middle)
    (second : resolver.Reads middle moreKeys moreFragments left) :
    resolver.Reads agenda (keys ++ moreKeys) (fragments ++ moreFragments) left := by
  induction first with
  | stop => exact second
  | text _ inductionHypothesis => exact text (inductionHypothesis second)
  | placeholder _ inductionHypothesis => exact placeholder (inductionHypothesis second)
  | entry found _ inductionHypothesis => exact entry found (inductionHypothesis second)

/-- A reading of all there is begins like any other reading of the same agenda. -/
theorem prefix_of_whole (part : resolver.Reads agenda keys fragments left)
    (whole : resolver.Reads agenda moreKeys moreFragments []) :
    keys <+: moreKeys ∧ fragments <+: moreFragments := by
  induction part generalizing moreKeys moreFragments with
  | stop => exact ⟨List.nil_prefix, List.nil_prefix⟩
  | text _ inductionHypothesis =>
    cases whole with
    | text onward =>
      obtain ⟨sameKeys, sameFragments⟩ := inductionHypothesis onward
      exact ⟨sameKeys, List.cons_prefix_cons.mpr ⟨rfl, sameFragments⟩⟩
  | placeholder _ inductionHypothesis =>
    cases whole with
    | placeholder onward =>
      obtain ⟨sameKeys, sameFragments⟩ := inductionHypothesis onward
      exact ⟨sameKeys, List.cons_prefix_cons.mpr ⟨rfl, sameFragments⟩⟩
  | entry found _ inductionHypothesis =>
    cases whole with
    | entry foundOther onward =>
      rw [found] at foundOther
      cases foundOther
      obtain ⟨sameKeys, sameFragments⟩ := inductionHypothesis onward
      exact ⟨List.cons_prefix_cons.mpr ⟨rfl, sameKeys⟩, sameFragments⟩

end Reads

/-! ### Reading unfoldings -/

theorem reads_of_forall₂ {segments rest : List Segment} {trees : List Unfolding}
    (each : ∀ tree ∈ trees, ∀ key rest, resolver.Unfolds key tree →
      resolver.Reads (.reference key :: rest) tree.keys tree.fragments rest)
    (unfold : List.Forall₂ resolver.Unfolds (Segment.targets segments) trees) :
    resolver.Reads (segments ++ rest) (Unfolding.keysOfAll trees)
      (weave segments (Unfolding.fragmentsOfEach trees)) rest := by
  induction segments generalizing trees with
  | nil =>
    cases unfold
    exact .stop
  | cons segment more inductionHypothesis =>
    rcases segment.eq_ofFragment_or_reference with ⟨fragment, rfl⟩ | ⟨target, rfl⟩
    · rw [Segment.targets_ofFragment] at unfold
      rw [weave_ofFragment]
      exact Reads.ofFragment fragment (inductionHypothesis each unfold)
    · cases unfold with
      | cons first later =>
        have rest := inductionHypothesis
          (fun tree member => each tree (List.mem_cons_of_mem _ member)) later
        exact (each _ List.mem_cons_self target _ first).append rest

/-- The whole of an unfolding can be read. -/
theorem Unfolds.reads {key : KeyPath} {tree : Unfolding} (unfolds : resolver.Unfolds key tree)
    (rest : List Segment) :
    resolver.Reads (.reference key :: rest) tree.keys tree.fragments rest := by
  induction tree using Unfolding.induction generalizing key rest with
  | node root entry children inductionHypothesis =>
    obtain ⟨found, below⟩ := unfolds
    rw [LeafEntry.targets_eq] at below
    refine Reads.entry found (reads_of_forall₂ ?_ below)
    intro child member key rest childUnfolds
    exact inductionHypothesis child member childUnfolds rest

/-- What a reading meets and passes is the beginning of the unfolding, if there is one. -/
theorem Unfolds.prefix_of_reads {key : KeyPath} {tree : Unfolding}
    (unfolds : resolver.Unfolds key tree)
    (reads : resolver.Reads [.reference key] keys fragments left) :
    keys <+: tree.keys ∧ fragments <+: tree.fragments :=
  reads.prefix_of_whole (unfolds.reads [])

end Resolver

end Phrasebook
