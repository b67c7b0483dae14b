/-
This file shows that rendering is compositional. The unfolding of a key that is referred
to is a part of the unfolding it is referred from, so it keeps to the same limits, and
everything that can be reached from a key that resolves does so too. What is shown for
a template is then what is shown for its segments, in their order, where a reference
shows what its target shows on its own; and a redirect shows what its target shows.
-/

import Phrasebook.Proofs.Resolve.Agreement
import Phrasebook.Proofs.Resolve.Substitution

namespace Phrasebook

namespace Resolver

variable {resolver : Resolver} {values : Values}

/-! ### Parts of an unfolding -/

theorem bytes_le_of_mem {segments : List Segment} {trees : List Unfolding}
    (unfold : List.Forall₂ resolver.Unfolds (Segment.targets segments) trees) :
    ∀ tree ∈ trees,
      tree.bytes ≤ Fragment.totalBytes (weave segments (Unfolding.fragmentsOfEach trees)) := by
  induction segments generalizing trees with
  | nil =>
    cases unfold
    exact fun _ member => absurd member List.not_mem_nil
  | cons segment rest inductionHypothesis =>
    rcases segment.eq_ofFragment_or_reference with ⟨fragment, rfl⟩ | ⟨target, rfl⟩
    · rw [Segment.targets_ofFragment] at unfold
      intro tree member
      rw [weave_ofFragment, ← List.singleton_append, Fragment.totalBytes_append]
      exact (inductionHypothesis unfold tree member).trans (Nat.le_add_left _ _)
    · cases unfold with
      | cons first later =>
        intro tree member
        rw [Unfolding.fragmentsOfEach, weave, Fragment.totalBytes_append]
        rcases List.mem_cons.mp member with rfl | further
        · exact Nat.le_add_right _ _
        · exact (inductionHypothesis later tree further).trans (Nat.le_add_left _ _)

/-- An unfolding keeps to the limits if it is right below one that does. -/
theorem within_of_mem {limits : Limits} {key : KeyPath} {entry : LeafEntry}
    {children : List Unfolding} (unfolds : resolver.Unfolds key (.node key entry children))
    (within : (Unfolding.node key entry children).Within limits) {child : Unfolding}
    (member : child ∈ children) : child.Within limits := by
  obtain ⟨-, below⟩ := unfolds
  rw [LeafEntry.targets_eq] at below
  have lower : child.height + 1 ≤ Unfolding.heightBelow children :=
    Unfolding.heightBelow_le_iff.mp le_rfl child member
  have smaller := Unfolding.size_le_of_mem member
  have shorter : child.bytes ≤ (Unfolding.node key entry children).bytes :=
    bytes_le_of_mem below child member
  obtain ⟨height, size, bytes⟩ := within
  refine ⟨?_, ?_, ?_⟩
  · rw [Unfolding.height] at height
    omega
  · rw [Unfolding.size, Unfolding.keys, List.length_cons] at size
    omega
  · omega

/-- Whatever can be reached from a key that resolves resolves as well. -/
theorem exists_resolvePath_of_reaches {key other : KeyPath}
    (resolves : ∃ resolution, resolver.resolvePath key = .ok resolution)
    (reaches : resolver.Reaches key other) :
    ∃ resolution, resolver.resolvePath other = .ok resolution := by
  induction reaches with
  | refl => exact resolves
  | tail _ refers inductionHypothesis =>
    obtain ⟨tree, unfolds, within⟩ := exists_resolvePath_iff.mp inductionHypothesis
    cases unfolds with
    | node found below =>
      obtain ⟨child, member, childUnfolds⟩ := (Unfolds.node found below).exists_of_refers refers
      exact exists_resolvePath_iff.mpr
        ⟨child, childUnfolds, within_of_mem (.node found below) within member⟩

/-! ### Redirects -/

/-- An unfolding of a redirect says what the unfolding of its target says. -/
theorem Unfolds.fragments_of_redirect {key target : KeyPath} {tree : Unfolding}
    (unfolds : resolver.Unfolds key tree) (found : resolver.lookup key = some (.redirect target)) :
    ∃ child, resolver.Unfolds target child ∧ tree.fragments = child.fragments := by
  obtain ⟨child, childUnfolds, rfl⟩ := (unfolds_iff_of_redirect found).mp unfolds
  exact ⟨child, childUnfolds, Unfolding.fragments_redirect key target child⟩

theorem RedirectsTo.lookup {key origin : KeyPath} (redirects : resolver.RedirectsTo key origin) :
    ∃ template, resolver.lookup origin = some (.literal template) := by
  induction redirects with
  | here found => exact ⟨_, found⟩
  | next _ _ inductionHypothesis => exact inductionHypothesis

theorem RedirectsTo.reaches {key origin : KeyPath} (redirects : resolver.RedirectsTo key origin) :
    resolver.Reaches key origin := by
  induction redirects with
  | here _ => exact .refl
  | next found _ inductionHypothesis =>
    exact .head ⟨_, found, List.mem_singleton_self _⟩ inductionHypothesis

/-- The end of the redirects says what the key says. -/
theorem RedirectsTo.fragments_eq {key origin : KeyPath} {tree : Unfolding}
    (redirects : resolver.RedirectsTo key origin) (unfolds : resolver.Unfolds key tree) :
    ∃ last, resolver.Unfolds origin last ∧ tree.fragments = last.fragments := by
  induction redirects generalizing tree with
  | here _ => exact ⟨tree, unfolds, rfl⟩
  | next found _ inductionHypothesis =>
    obtain ⟨child, childUnfolds, same⟩ := unfolds.fragments_of_redirect found
    obtain ⟨last, lastUnfolds, further⟩ := inductionHypothesis childUnfolds
    exact ⟨last, lastUnfolds, same.trans further⟩

theorem fragments_of_resolvePath {key : KeyPath} {resolution : Resolution} {tree : Unfolding}
    (resolved : resolver.resolvePath key = .ok resolution) (unfolds : resolver.Unfolds key tree) :
    resolution.fragments = Fragment.join tree.fragments := by
  obtain ⟨other, otherUnfolds, -, -, -, fragments⟩ := resolvePath_eq_ok_iff.mp resolved
  rw [unfolds.unique otherUnfolds]
  exact fragments

/-! ### Segments -/

/-- Resolves a path and renders the result. -/
def renderPath (resolver : Resolver) (path : KeyPath) (values : Values) :
    Except ResolveError String :=
  match resolver.resolvePath path with
  | .error fault => .error fault
  | .ok resolution => resolution.render values

/-- What is shown for a segment: a text itself, the value of a placeholder, and for a reference
what rendering its target gives. -/
inductive Shows (resolver : Resolver) (values : Values) : Segment → String → Prop
  | text (content : String) : Shows resolver values (.text content) content
  | placeholder {name value : String} (given : values name = some value) :
      Shows resolver values (.placeholder name) value
  | reference {target : KeyPath} {shown : String}
      (rendered : resolver.renderPath target values = .ok shown) :
      Shows resolver values (.reference target) shown

theorem shows_ofFragment_iff {fragment : Fragment} {part : String} :
    resolver.Shows values (.ofFragment fragment) part ↔
      Fragment.Covered values [fragment] ∧ part = Fragment.fillAll values [fragment] := by
  rw [Fragment.fillAll_singleton, ← Fragment.standsFor_iff]
  cases fragment with
  | text content =>
    constructor
    · rintro (_ | _)
      exact .text part
    · rintro (_ | _)
      exact Shows.text part
  | placeholder name =>
    constructor
    · rintro (_ | given)
      exact .placeholder given
    · rintro (_ | supplied)
      exact Shows.placeholder supplied

theorem renderPath_eq_ok_iff {key : KeyPath} {tree : Unfolding} {text : String}
    (unfolds : resolver.Unfolds key tree) (within : tree.Within resolver.limits) :
    resolver.renderPath key values = .ok text ↔
      Fragment.Covered values tree.fragments ∧ text = Fragment.fillAll values tree.fragments := by
  obtain ⟨resolution, resolved⟩ := exists_resolvePath_iff.mpr ⟨tree, unfolds, within⟩
  have fragments := fragments_of_resolvePath resolved unfolds
  rw [renderPath, resolved]
  simp only [Resolution.render_eq_ok_iff]
  rw [fragments, Fragment.covered_join, Fragment.fillAll_join]

theorem shows_reference_iff {target : KeyPath} {tree : Unfolding} {part : String}
    (unfolds : resolver.Unfolds target tree) (within : tree.Within resolver.limits) :
    resolver.Shows values (.reference target) part ↔
      Fragment.Covered values tree.fragments ∧ part = Fragment.fillAll values tree.fragments := by
  rw [← renderPath_eq_ok_iff unfolds within]
  constructor
  · rintro (_ | _ | rendered)
    exact rendered
  · exact Shows.reference

/-- If a segment shows some fragments, and those behind it show others, they show both. -/
theorem exists_shown_cons_iff {segment : Segment} {rest : List Segment}
    {front back : List Fragment}
    (head : ∀ part, resolver.Shows values segment part ↔
      Fragment.Covered values front ∧ part = Fragment.fillAll values front)
    (tail : ∀ text, (Fragment.Covered values back ∧ text = Fragment.fillAll values back) ↔
      ∃ parts, List.Forall₂ (resolver.Shows values) rest parts ∧ text = String.join parts)
    (text : String) :
    (Fragment.Covered values (front ++ back) ∧ text = Fragment.fillAll values (front ++ back)) ↔
      ∃ parts, List.Forall₂ (resolver.Shows values) (segment :: rest) parts ∧
        text = String.join parts := by
  rw [Fragment.covered_append, Fragment.fillAll_append]
  constructor
  · rintro ⟨⟨first, second⟩, rfl⟩
    obtain ⟨parts, shown, same⟩ := (tail _).mp ⟨second, rfl⟩
    refine ⟨_ :: parts, .cons ((head _).mpr ⟨first, rfl⟩) shown, ?_⟩
    rw [String.join_cons, ← same]
  · rintro ⟨_, _ | ⟨shown, later⟩, rfl⟩
    obtain ⟨first, rfl⟩ := (head _).mp shown
    obtain ⟨second, same⟩ := (tail _).mpr ⟨_, later, rfl⟩
    rw [String.join_cons, same]
    exact ⟨⟨first, second⟩, rfl⟩

/-- The fragments of segments whose references unfold show what the segments show. -/
theorem exists_shown_iff {segments : List Segment} {trees : List Unfolding}
    (unfold : List.Forall₂ resolver.Unfolds (Segment.targets segments) trees)
    (within : ∀ tree ∈ trees, tree.Within resolver.limits) (text : String) :
    (Fragment.Covered values (weave segments (Unfolding.fragmentsOfEach trees)) ∧
      text = Fragment.fillAll values (weave segments (Unfolding.fragmentsOfEach trees))) ↔
      ∃ parts, List.Forall₂ (resolver.Shows values) segments parts ∧
        text = String.join parts := by
  induction segments generalizing trees text with
  | nil => simp [weave, Fragment.Covered, Fragment.fillAll]
  | cons segment rest inductionHypothesis =>
    rcases segment.eq_ofFragment_or_reference with ⟨fragment, rfl⟩ | ⟨target, rfl⟩
    · rw [Segment.targets_ofFragment] at unfold
      rw [weave_ofFragment, ← List.singleton_append]
      exact exists_shown_cons_iff (fun _ => shows_ofFragment_iff)
        (inductionHypothesis unfold within) text
    · cases unfold with
      | cons first later =>
        rw [List.forall_mem_cons] at within
        exact exists_shown_cons_iff (fun _ => shows_reference_iff first within.1)
          (inductionHypothesis later within.2) text

theorem exists_forall₂_shows_iff {segments : List Segment} :
    (∃ parts, List.Forall₂ (resolver.Shows values) segments parts) ↔
      ∀ segment ∈ segments, ∃ part, resolver.Shows values segment part := by
  induction segments with
  | nil => simp
  | cons segment rest inductionHypothesis =>
    rw [List.forall_mem_cons, ← inductionHypothesis]
    constructor
    · rintro ⟨_, _ | ⟨shown, later⟩⟩
      exact ⟨⟨_, shown⟩, ⟨_, later⟩⟩
    · rintro ⟨⟨part, shown⟩, ⟨parts, later⟩⟩
      exact ⟨part :: parts, .cons shown later⟩

/-- Each segment of a template shows something exactly when the placeholders have values and the
targets of the references render. -/
theorem forall_shows_iff {template : Template} :
    (∀ segment ∈ template.segments, ∃ part, resolver.Shows values segment part) ↔
      (∀ name ∈ template.placeholders, (values name).isSome) ∧
        ∀ target ∈ template.references, ∃ text, resolver.renderPath target values = .ok text := by
  simp only [Template.placeholders, Template.references, List.mem_eraseDups, List.mem_filterMap]
  constructor
  · intro shown
    constructor
    · rintro name ⟨segment, member, same⟩
      cases segment with
      | text content => cases same
      | reference target => cases same
      | placeholder held =>
        cases same
        obtain ⟨part, _ | given⟩ := shown _ member
        exact Option.isSome_of_eq_some given
    · rintro target ⟨segment, member, same⟩
      cases segment with
      | text content => cases same
      | placeholder name => cases same
      | reference held =>
        cases same
        obtain ⟨part, _ | _ | rendered⟩ := shown _ member
        exact ⟨part, rendered⟩
  · rintro ⟨given, rendered⟩ segment member
    cases segment with
    | text content => exact ⟨content, .text content⟩
    | placeholder name =>
      obtain ⟨value, same⟩ := Option.isSome_iff_exists.mp (given name ⟨_, member, rfl⟩)
      exact ⟨value, .placeholder same⟩
    | reference target =>
      obtain ⟨text, same⟩ := rendered target ⟨_, member, rfl⟩
      exact ⟨text, .reference same⟩

/-! ### The whole -/

/-- How the resolution of a key and its rendering come from those of other keys. -/
structure Composed (resolver : Resolver) (key : KeyPath) (resolution : Resolution)
    (values : Values) : Prop where
  /-- Whatever can be reached from the key resolves. -/
  reachable : ∀ other, resolver.Reaches key other →
    ∃ reached, resolver.resolvePath other = .ok reached
  /-- The origin is the key itself exactly when the key has a template of its own. -/
  origin_eq_key_iff : resolution.origin = key ↔
    ∃ template, resolver.lookup key = some (.literal template)
  /-- The origin resolves to the same fragments and is its own origin. -/
  origin : ∃ last, resolver.resolvePath resolution.origin = .ok last ∧
    last.fragments = resolution.fragments ∧ last.origin = resolution.origin
  /-- A redirect shows what its target shows, or both miss the same placeholder. -/
  redirect : ∀ target, resolver.lookup key = some (.redirect target) →
    (∃ text, resolution.render values = .ok text ∧
      resolver.renderPath target values = .ok text) ∨
    ∃ name, resolution.render values = .error (.missingPlaceholder key name) ∧
      resolver.renderPath target values = .error (.missingPlaceholder target name)
  /-- When a template can be shown. -/
  succeeds : ∀ template, resolver.lookup key = some (.literal template) →
    ((∃ text, resolution.render values = .ok text) ↔
      (∀ name ∈ template.placeholders, (values name).isSome) ∧
        ∀ target ∈ template.references, ∃ text, resolver.renderPath target values = .ok text)
  /-- What is shown for a template is what is shown for its segments, one after another. -/
  literal : ∀ template, resolver.lookup key = some (.literal template) →
    ∀ text, resolution.render values = .ok text ↔
      ∃ parts, List.Forall₂ (resolver.Shows values) template.segments parts ∧
        text = String.join parts

variable {key : KeyPath} {resolution : Resolution}

theorem origin_eq_key_iff (resolved : resolver.resolvePath key = .ok resolution) :
    resolution.origin = key ↔ ∃ template, resolver.lookup key = some (.literal template) := by
  obtain ⟨-, -, -, -, redirects, -⟩ := resolvePath_eq_ok_iff.mp resolved
  constructor
  · intro same
    rw [← same]
    exact redirects.lookup
  · rintro ⟨template, found⟩
    exact redirects.unique (.here found)

theorem resolvePath_origin (resolved : resolver.resolvePath key = .ok resolution) :
    ∃ last, resolver.resolvePath resolution.origin = .ok last ∧
      last.fragments = resolution.fragments ∧ last.origin = resolution.origin := by
  obtain ⟨tree, unfolds, -, -, redirects, fragments⟩ := resolvePath_eq_ok_iff.mp resolved
  obtain ⟨last, resolvedLast⟩ := exists_resolvePath_of_reaches ⟨_, resolved⟩ redirects.reaches
  obtain ⟨lastTree, lastUnfolds, same⟩ := redirects.fragments_eq unfolds
  refine ⟨last, resolvedLast, ?_, (origin_eq_key_iff resolvedLast).mpr redirects.lookup⟩
  rw [fragments_of_resolvePath resolvedLast lastUnfolds, ← same, fragments]

theorem render_of_redirect (resolved : resolver.resolvePath key = .ok resolution)
    {target : KeyPath} (found : resolver.lookup key = some (.redirect target)) (values : Values) :
    (∃ text, resolution.render values = .ok text ∧
      resolver.renderPath target values = .ok text) ∨
    ∃ name, resolution.render values = .error (.missingPlaceholder key name) ∧
      resolver.renderPath target values = .error (.missingPlaceholder target name) := by
  obtain ⟨tree, unfolds, -, named, -, fragments⟩ := resolvePath_eq_ok_iff.mp resolved
  obtain ⟨other, resolvedOther⟩ := exists_resolvePath_of_reaches ⟨_, resolved⟩
    (.single ⟨_, found, List.mem_singleton_self target⟩)
  obtain ⟨child, childUnfolds, same⟩ := unfolds.fragments_of_redirect found
  obtain ⟨-, -, -, namedOther, -⟩ := resolvePath_eq_ok_iff.mp resolvedOther
  have equal : other.fragments = resolution.fragments := by
    rw [fragments_of_resolvePath resolvedOther childUnfolds, ← same, fragments]
  rw [renderPath, resolvedOther, ← named, ← namedOther]
  exact Resolution.render_of_fragments_eq equal values

theorem render_of_literal (resolved : resolver.resolvePath key = .ok resolution)
    {template : Template} (found : resolver.lookup key = some (.literal template))
    (text : String) :
    resolution.render values = .ok text ↔
      ∃ parts, List.Forall₂ (resolver.Shows values) template.segments parts ∧
        text = String.join parts := by
  obtain ⟨tree, unfolds, within, -, -, fragments⟩ := resolvePath_eq_ok_iff.mp resolved
  cases unfolds with
  | node foundOther below =>
    rw [found] at foundOther
    cases foundOther
    have whole := Unfolds.node found below
    rw [LeafEntry.targets_eq] at below
    rw [Resolution.render_eq_ok_iff, fragments, Fragment.covered_join, Fragment.fillAll_join]
    exact exists_shown_iff below (fun child member => within_of_mem whole within member) text

/-- Resolving and rendering are compositional: with a key that resolves, every key it leads to
resolves, its redirects can be followed by hand, and what it shows is put together from what its
segments show. -/
theorem composed_of_resolvePath (resolver : Resolver) (key : KeyPath) (resolution : Resolution)
    (values : Values) (resolved : resolver.resolvePath key = .ok resolution) :
    resolver.Composed key resolution values where
  reachable := fun _ reaches => exists_resolvePath_of_reaches ⟨_, resolved⟩ reaches
  origin_eq_key_iff := origin_eq_key_iff resolved
  origin := resolvePath_origin resolved
  redirect := fun _ found => render_of_redirect resolved found values
  literal := fun _ found => render_of_literal resolved found
  succeeds := by
    intro template found
    rw [← forall_shows_iff, ← exists_forall₂_shows_iff]
    simp only [render_of_literal resolved found]
    constructor
    · rintro ⟨_, parts, shown, -⟩
      exact ⟨parts, shown⟩
    · rintro ⟨parts, shown⟩
      exact ⟨_, parts, shown, rfl⟩

/-- The path of a template that waits for a name. -/
def hello : KeyPath := ⟨["hello"], by decide, by decide⟩

/-- The path of a redirect to that template. -/
def salute : KeyPath := ⟨["salute"], by decide, by decide⟩

/-- The path of a template that uses the redirect. -/
def welcome : KeyPath := ⟨["welcome"], by decide, by decide⟩

/-- The table of the two templates and the redirect between them. -/
def welcomeTable : Table :=
  ⟨[("hello", .leaf (.literal (Template.ofSegments [.text "Hello ", .placeholder "name"]))),
    ("salute", .leaf (.redirect hello)),
    ("welcome", .leaf (.literal (Template.ofSegments [.reference salute, .text "!"])))], by
    simp only [Namespace.Sound, Node.Sound]
    decide⟩

theorem composed_welcome :
    (ofTable welcomeTable).resolvePath welcome =
      .ok ⟨welcome, welcome, [.text "Hello ", .placeholder "name", .text "!"]⟩ ∧
    (ofTable welcomeTable).Composed welcome
      ⟨welcome, welcome, [.text "Hello ", .placeholder "name", .text "!"]⟩
      (Values.ofPairs [("name", "Ada")]) := by
  have resolved : (ofTable welcomeTable).resolvePath welcome =
      .ok ⟨welcome, welcome, [.text "Hello ", .placeholder "name", .text "!"]⟩ := by
    decide +kernel
  exact ⟨resolved, composed_of_resolvePath _ _ _ _ resolved⟩

end Resolver

end Phrasebook
