/-
This file says what rendering makes of fragments. Rendering fills the fragments in
their order, and it succeeds exactly when each placeholder among them has a value.
Neither depends on whether neighbouring texts were joined before, so rendering can be
told from the fragments of an unfolding, and for one list after another.
-/

import Phrasebook.Proofs.Resolve.Fragments

namespace Phrasebook

/-! ### Filling fragments -/

namespace Fragment

variable {values : Values}

/-- The fragments one after another, with the values that there are. -/
def fillAll (values : Values) (fragments : List Fragment) : String :=
  String.join (fragments.map (fill values))

/-- Each placeholder among the fragments has a value. -/
def Covered (values : Values) (fragments : List Fragment) : Prop :=
  ∀ name, .placeholder name ∈ fragments → (values name).isSome

theorem fillAll_cons (fragment : Fragment) (rest : List Fragment) :
    fillAll values (fragment :: rest) = fragment.fill values ++ fillAll values rest := by
  rw [fillAll, List.map_cons, String.join_cons, fillAll]

theorem fillAll_append (first second : List Fragment) :
    fillAll values (first ++ second) = fillAll values first ++ fillAll values second := by
  rw [fillAll, List.map_append, String.join_append, fillAll, fillAll]

theorem covered_append {first second : List Fragment} :
    Covered values (first ++ second) ↔ Covered values first ∧ Covered values second := by
  simp only [Covered, List.mem_append]
  exact ⟨fun each => ⟨fun name member => each name (Or.inl member),
      fun name member => each name (Or.inr member)⟩,
    fun ⟨first, second⟩ name member => member.elim (first name) (second name)⟩

theorem fillAll_singleton (fragment : Fragment) :
    fillAll values [fragment] = fragment.fill values := by
  rw [fillAll_cons]
  exact String.append_empty

/-! ### Single fragments -/

/-- The piece of text that stands for a fragment: a text itself, and the value of a placeholder
just as it was supplied. -/
inductive StandsFor (values : Values) : Fragment → String → Prop
  | text (content : String) : StandsFor values (.text content) content
  | placeholder {name value : String} (supplied : values name = some value) :
      StandsFor values (.placeholder name) value

theorem standsFor_iff {fragment : Fragment} {piece : String} :
    StandsFor values fragment piece ↔
      Covered values [fragment] ∧ piece = fragment.fill values := by
  cases fragment with
  | text content =>
    constructor
    · rintro (_ | _)
      exact ⟨by simp [Covered], rfl⟩
    · rintro ⟨-, rfl⟩
      exact .text piece
  | placeholder name =>
    constructor
    · rintro (_ | supplied)
      exact ⟨by simp [Covered, supplied], by rw [fill, supplied]⟩
    · rintro ⟨covered, rfl⟩
      obtain ⟨value, supplied⟩ := Option.isSome_iff_exists.mp
        (covered name (List.mem_singleton_self _))
      rw [fill, supplied]
      exact .placeholder supplied

/-! ### Joined texts -/

theorem fillAll_prepend (content : String) (fragments : List Fragment) :
    fillAll values (prepend content fragments) = content ++ fillAll values fragments := by
  match fragments with
  | [] => exact fillAll_cons _ _
  | .placeholder _ :: _ => exact fillAll_cons _ _
  | .text later :: more =>
    rw [prepend, fillAll_cons, fillAll_cons]
    exact String.append_assoc

/-- Joining texts does not change what is shown. -/
theorem fillAll_join (fragments : List Fragment) :
    fillAll values (join fragments) = fillAll values fragments := by
  induction fragments with
  | nil => rfl
  | cons fragment rest inductionHypothesis =>
    cases fragment with
    | text content => rw [join, fillAll_prepend, inductionHypothesis, fillAll_cons, fill]
    | placeholder name => rw [join, fillAll_cons, inductionHypothesis, fillAll_cons]

theorem placeholder_mem_prepend_iff {content name : String} {fragments : List Fragment} :
    .placeholder name ∈ prepend content fragments ↔ .placeholder name ∈ fragments := by
  match fragments with
  | [] => simp [prepend]
  | .placeholder _ :: _ => simp [prepend]
  | .text _ :: _ => simp [prepend]

/-- Joining texts keeps the placeholders. -/
theorem placeholder_mem_join_iff {name : String} {fragments : List Fragment} :
    .placeholder name ∈ join fragments ↔ .placeholder name ∈ fragments := by
  induction fragments with
  | nil => rfl
  | cons fragment rest inductionHypothesis =>
    cases fragment with
    | text content =>
      rw [join, placeholder_mem_prepend_iff, inductionHypothesis]
      simp
    | placeholder other => rw [join, List.mem_cons, List.mem_cons, inductionHypothesis]

theorem covered_join {fragments : List Fragment} :
    Covered values (join fragments) ↔ Covered values fragments := by
  simp only [Covered, placeholder_mem_join_iff]

end Fragment

/-! ### Rendering -/

namespace Resolution

variable {resolution other : Resolution} {values : Values}

theorem mem_placeholders_iff {name : String} :
    name ∈ resolution.placeholders ↔ .placeholder name ∈ resolution.fragments := by
  rw [placeholders, List.mem_eraseDups, List.mem_filterMap]
  constructor
  · rintro ⟨fragment, member, same⟩
    cases fragment with
    | text content => cases same
    | placeholder held =>
      cases same
      exact member
  · intro member
    exact ⟨_, member, rfl⟩

/-- Rendering succeeds exactly when each placeholder has a value, and it shows the fragments
filled. -/
theorem render_eq_ok_iff {text : String} :
    resolution.render values = .ok text ↔
      Fragment.Covered values resolution.fragments ∧
        text = Fragment.fillAll values resolution.fragments := by
  have covered : (resolution.placeholders.find? fun name => (values name).isNone) = none ↔
      Fragment.Covered values resolution.fragments := by
    rw [List.find?_eq_none]
    simp only [mem_placeholders_iff, Fragment.Covered, Option.isNone_iff_eq_none,
      Option.isSome_iff_ne_none, ne_eq]
  rw [← covered]
  unfold render
  cases resolution.placeholders.find? fun name => (values name).isNone with
  | none => simp [eq_comm, renderLenient, Fragment.fillAll]
  | some name => simp

/-- Resolutions with the same fragments show the same text or miss the same placeholder. -/
theorem render_of_fragments_eq (same : other.fragments = resolution.fragments)
    (values : Values) :
    (∃ text, resolution.render values = .ok text ∧ other.render values = .ok text) ∨
      ∃ name, resolution.render values = .error (.missingPlaceholder resolution.key name) ∧
        other.render values = .error (.missingPlaceholder other.key name) := by
  have placeholders : other.placeholders = resolution.placeholders := by
    rw [Resolution.placeholders, same, Resolution.placeholders]
  unfold render
  rw [placeholders]
  cases resolution.placeholders.find? fun name => (values name).isNone with
  | none =>
    refine Or.inl ⟨_, rfl, ?_⟩
    rw [renderLenient, same, renderLenient]
  | some name => exact Or.inr ⟨name, rfl, rfl⟩

end Resolution

end Phrasebook
