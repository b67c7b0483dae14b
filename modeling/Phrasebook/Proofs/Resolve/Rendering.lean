/-
This file says what a caller can rely on when a resolution is rendered. Each placeholder
becomes the value of its name and each text stays as it is, so a brace in a value is text
like any other. The names are looked up in the order in which they first appear, and the
first without a value is the error, the same whether repeated names are dropped before or
not. Values of other names are never looked at.
-/

import Mathlib.Data.List.Find
import Phrasebook.Proofs.Resolve.Substitution

namespace Phrasebook

/-! ### The first of several names -/

/-- Dropping repetitions does not change which element with a property comes first. -/
theorem find?_eraseDups {Name : Type} [BEq Name] [LawfulBEq Name] (sought : Name → Bool)
    (names : List Name) : names.eraseDups.find? sought = names.find? sought := by
  match names with
  | [] => rfl
  | name :: rest =>
    rw [List.eraseDups_cons, List.find?_cons, List.find?_cons]
    cases found : sought name with
    | true => rfl
    | false =>
      have others : (fun other => decide ((!other == name) = true ∧ sought other = true)) =
          sought := by
        funext other
        by_cases same : other = name
        · rw [same, found]
          simp
        · simp [same]
      rw [find?_eraseDups sought (rest.filter fun other => !other == name), List.find?_filter,
        others]
termination_by names.length
decreasing_by exact Nat.lt_succ_of_le (List.length_filter_le _ _)

namespace Fragment

variable {values : Values}

/-! ### Pieces of the text -/

/-- Fragments have pieces exactly when each placeholder has a value, and the pieces are then
the fragments filled. -/
theorem forall₂_standsFor_iff {fragments : List Fragment} {pieces : List String} :
    List.Forall₂ (StandsFor values) fragments pieces ↔
      Covered values fragments ∧ pieces = fragments.map (fill values) := by
  induction fragments generalizing pieces with
  | nil => simp [Covered]
  | cons fragment rest inductionHypothesis =>
    rw [List.forall₂_cons_left_iff, ← List.singleton_append, covered_append]
    constructor
    · rintro ⟨piece, others, stands, onward, rfl⟩
      obtain ⟨covered, rfl⟩ := standsFor_iff.mp stands
      obtain ⟨coveredRest, rfl⟩ := inductionHypothesis.mp onward
      exact ⟨⟨covered, coveredRest⟩, rfl⟩
    · rintro ⟨⟨covered, coveredRest⟩, rfl⟩
      exact ⟨_, _, standsFor_iff.mpr ⟨covered, rfl⟩, inductionHypothesis.mpr ⟨coveredRest, rfl⟩,
        rfl⟩

/-! ### The first name without a value -/

/-- The placeholder is the first among the fragments without a value. -/
def FirstMissing (values : Values) (fragments : List Fragment) (name : String) : Prop :=
  values name = none ∧
    ∃ before after, fragments = before ++ .placeholder name :: after ∧ Covered values before

end Fragment

namespace Resolution

variable {resolution : Resolution} {values : Values}

theorem find?_placeholders_eq_some_iff {name : String} :
    (resolution.placeholders.find? fun name => (values name).isNone) = some name ↔
      Fragment.FirstMissing values resolution.fragments name := by
  rw [placeholders, find?_eraseDups, List.find?_filterMap, Option.bind_eq_some_iff]
  simp only [List.find?_eq_some_iff_append]
  constructor
  · rintro ⟨fragment, ⟨missing, before, after, split, passed⟩, named⟩
    cases fragment with
    | text content => cases named
    | placeholder held =>
      cases named
      refine ⟨Option.isNone_iff_eq_none.mp missing, before, after, split, ?_⟩
      intro other member
      have supplied := passed _ member
      simpa using supplied
  · rintro ⟨missing, before, after, split, covered⟩
    refine ⟨.placeholder name, ⟨Option.isNone_iff_eq_none.mpr missing, before, after, split, ?_⟩,
      rfl⟩
    intro fragment member
    cases fragment with
    | text content => rfl
    | placeholder other =>
      have supplied := covered other member
      simpa using supplied

/-- Rendering fails exactly for the first placeholder without a value. -/
theorem render_eq_error_iff {fault : ResolveError} :
    resolution.render values = .error fault ↔
      ∃ name, Fragment.FirstMissing values resolution.fragments name ∧
        fault = .missingPlaceholder resolution.key name := by
  simp only [← find?_placeholders_eq_some_iff, render]
  cases resolution.placeholders.find? fun name => (values name).isNone with
  | none => simp
  | some name => simp [eq_comm]

/-- Rendering succeeds exactly with the pieces that stand for the fragments, one after
another. -/
theorem render_eq_ok_iff_pieces {text : String} :
    resolution.render values = .ok text ↔
      ∃ pieces, List.Forall₂ (Fragment.StandsFor values) resolution.fragments pieces ∧
        text = String.join pieces := by
  simp only [render_eq_ok_iff, Fragment.forall₂_standsFor_iff, and_assoc, exists_and_left,
    exists_eq_left, Fragment.fillAll]

/-! ### Values that agree -/

theorem renderLenient_congr {other : Values}
    (agree : ∀ name ∈ resolution.placeholders, other name = values name) :
    resolution.renderLenient other = resolution.renderLenient values := by
  refine congrArg String.join (List.map_congr_left fun fragment member => ?_)
  cases fragment with
  | text content => rfl
  | placeholder name =>
    rw [Fragment.fill, Fragment.fill, agree name (mem_placeholders_iff.mpr member)]

theorem render_congr {other : Values}
    (agree : ∀ name ∈ resolution.placeholders, other name = values name) :
    resolution.render other = resolution.render values := by
  have missing : (resolution.placeholders.find? fun name => (other name).isNone) =
      resolution.placeholders.find? fun name => (values name).isNone :=
    List.find?_congr fun name member => by rw [agree name member]
  rw [render, render, missing, renderLenient_congr agree]

/-- Rendering succeeds exactly when each placeholder has a value, and otherwise names the first
that has none. What it gives are the fragments one after another, with the value of each
placeholder in its place as it was supplied, which is also what rendering leniently gives. No
value of another name matters. -/
theorem substitution_exact (resolution : Resolution) (values : Values) :
    ((∃ text, resolution.render values = .ok text) ↔
      ∀ name ∈ resolution.placeholders, (values name).isSome) ∧
    (∀ fault, resolution.render values = .error fault ↔
      ∃ name, Fragment.FirstMissing values resolution.fragments name ∧
        fault = .missingPlaceholder resolution.key name) ∧
    (∀ text, resolution.render values = .ok text ↔
      ∃ pieces, List.Forall₂ (Fragment.StandsFor values) resolution.fragments pieces ∧
        text = String.join pieces) ∧
    (∀ text, resolution.render values = .ok text → resolution.renderLenient values = text) ∧
    ∀ other : Values, (∀ name ∈ resolution.placeholders, other name = values name) →
      resolution.render other = resolution.render values ∧
        resolution.renderLenient other = resolution.renderLenient values := by
  refine ⟨?_, fun fault => render_eq_error_iff, fun text => render_eq_ok_iff_pieces, ?_, ?_⟩
  · simp only [render_eq_ok_iff, exists_and_left, exists_eq, and_true, Fragment.Covered,
      mem_placeholders_iff]
  · intro text rendered
    exact (render_eq_ok_iff.mp rendered).2.symm
  · intro other agree
    exact ⟨render_congr agree, renderLenient_congr agree⟩

/-- A resolution that uses one name twice. -/
def reminder : Resolution :=
  ⟨⟨["reminder"], by decide, by decide⟩, ⟨["reminder"], by decide, by decide⟩,
    [.placeholder "name", .text ": ", .placeholder "task", .text " for ", .placeholder "name"]⟩

/-- Values that look like placeholders and references themselves. -/
def reminderValues : Values :=
  Values.ofPairs [("name", "\x7btask\x7d"), ("task", "[%key:task%]")]

/-- The same values, and one more that the resolution does not use. -/
def datedValues : Values :=
  Values.ofPairs [("due", "today"), ("name", "\x7btask\x7d"), ("task", "[%key:task%]")]

theorem substitution_exact_reminder :
    reminder.render reminderValues =
      .ok "\x7btask\x7d: [%key:task%] for \x7btask\x7d" ∧
    reminder.renderLenient reminderValues =
      "\x7btask\x7d: [%key:task%] for \x7btask\x7d" ∧
    (∀ name ∈ reminder.placeholders, datedValues name = reminderValues name) ∧
    reminder.render datedValues = reminder.render reminderValues := by
  have rendered : reminder.render reminderValues =
      .ok "\x7btask\x7d: [%key:task%] for \x7btask\x7d" := by decide +kernel
  have agree : ∀ name ∈ reminder.placeholders, datedValues name = reminderValues name := by
    decide
  obtain ⟨-, -, -, lenient, others⟩ := substitution_exact reminder reminderValues
  exact ⟨rendered, lenient _ rendered, agree, (others _ agree).1⟩

end Resolution

end Phrasebook
