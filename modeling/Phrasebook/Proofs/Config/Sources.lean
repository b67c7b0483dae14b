/-
This file says which documents of an allowed configuration have different paths. What is
compared is the texts up to blanks around them, before the directory of the configuration
comes in, so two spellings of a path pass for two documents. There are three ways in
which different texts lead to one path, and among tidy texts only one of them is left: a
relative text that an absolute one spells out from the root.
-/

import Phrasebook.Proofs.Config.Offenders
import Phrasebook.Proofs.File.Components

namespace Phrasebook

namespace Config

/-! ### Texts -/

variable {config : Config}

/-- The documents of an allowed configuration have different texts. -/
theorem pairwise_trim_ne (accepted : config.validate = .ok ()) :
    (config.sources.primary :: config.sources.shared).Pairwise fun first second =>
      Text.trim first ≠ Text.trim second := by
  unfold validate at accepted
  split at accepted
  · cases accepted
  · rename_i allowed
    unfold checkSources at allowed
    split at allowed
    · cases allowed
    · split at allowed
      · cases allowed
      · exact ((checkAllShared_eq_ok_iff (List.pairwise_singleton _ _)).mp allowed).2

/-! ### Paths -/

/-- The directory from which relative paths are meant, unless its path says nothing. -/
def base? (config : Config) : Option FilePath :=
  config.sourceDirectory.filter fun directory => decide (directory.text ≠ "")

/-- A text stays the path that it is if it is absolute or there is no directory. -/
theorem resolveSource_of_stays {source : String}
    (stays : FilePath.isAbsolute ⟨Text.trim source⟩ = true ∨ config.base? = none) :
    config.resolveSource source = ⟨Text.trim source⟩ := by
  unfold base? at stays
  unfold resolveSource
  cases inside : config.sourceDirectory with
  | none => rfl
  | some directory =>
    rw [inside] at stays
    rcases stays with absolute | unsaid
    · exact FilePath.join_of_isAbsolute absolute
    · have empty := Option.filter_eq_none_iff.mp unsaid directory rfl
      rw [decide_eq_true_iff, not_not] at empty
      exact FilePath.join_of_text_eq_empty empty

/-- A relative text adds its steps to the directory. -/
theorem components_resolveSource {source : String} {directory : FilePath}
    (inside : config.base? = some directory)
    (relative : FilePath.isAbsolute ⟨Text.trim source⟩ = false) :
    (config.resolveSource source).components =
      directory.components ++ FilePath.steps ⟨Text.trim source⟩ := by
  unfold base? at inside
  rw [Option.filter_eq_some_iff, decide_eq_true_iff] at inside
  rw [resolveSource, inside.1]
  exact FilePath.components_join relative inside.2

/-- Two paths, as they are written in a configuration, lead to the same. -/
inductive Coincide (config : Config) (first second : FilePath) : Prop
  /-- They have the same components. -/
  | alike (same : first.components = second.components)
  /-- In a directory a dot at the start of a relative path says nothing. -/
  | inside (directory : FilePath) (base : config.base? = some directory)
      (relative : first.isAbsolute = false ∧ second.isAbsolute = false)
      (same : first.steps = second.steps)
  /-- The second is absolute and leads into the directory, to what the first names there. -/
  | spelledOut (directory : FilePath) (base : config.base? = some directory)
      (relative : first.isAbsolute = false) (absolute : second.isAbsolute = true)
      (same : directory.components ++ first.steps = second.components)
  /-- The first is absolute and leads into the directory, to what the second names there. -/
  | spelling (directory : FilePath) (base : config.base? = some directory)
      (absolute : first.isAbsolute = true) (relative : second.isAbsolute = false)
      (same : first.components = directory.components ++ second.steps)

/-- Paths with the same components coincide wherever they are meant from. -/
theorem components_resolveSource_congr {first second : String}
    (same : FilePath.components ⟨Text.trim first⟩ = FilePath.components ⟨Text.trim second⟩) :
    (config.resolveSource first).components = (config.resolveSource second).components := by
  have kinds := FilePath.isAbsolute_eq_of_components same
  cases base : config.base? with
  | none =>
    rw [resolveSource_of_stays (Or.inr base), resolveSource_of_stays (Or.inr base), same]
  | some directory =>
    cases absolute : FilePath.isAbsolute ⟨Text.trim first⟩ with
    | true =>
      rw [resolveSource_of_stays (Or.inl absolute),
        resolveSource_of_stays (Or.inl (kinds.symm.trans absolute)), same]
    | false =>
      rw [components_resolveSource base absolute,
        components_resolveSource base (kinds.symm.trans absolute),
        FilePath.steps_eq_filter, FilePath.steps_eq_filter, same]

/-- Texts lead to the same components exactly when they coincide. -/
theorem components_resolveSource_eq_iff {first second : String} :
    (config.resolveSource first).components = (config.resolveSource second).components ↔
      config.Coincide ⟨Text.trim first⟩ ⟨Text.trim second⟩ := by
  constructor
  · intro same
    cases base : config.base? with
    | none =>
      rw [resolveSource_of_stays (Or.inr base), resolveSource_of_stays (Or.inr base)] at same
      exact .alike same
    | some directory =>
      cases firstKind : FilePath.isAbsolute ⟨Text.trim first⟩ <;>
        cases secondKind : FilePath.isAbsolute ⟨Text.trim second⟩
      case false.false =>
        rw [components_resolveSource base firstKind, components_resolveSource base secondKind]
          at same
        exact .inside directory base ⟨firstKind, secondKind⟩ (List.append_cancel_left same)
      case false.true =>
        rw [components_resolveSource base firstKind, resolveSource_of_stays (Or.inl secondKind)]
          at same
        exact .spelledOut directory base firstKind secondKind same
      case true.false =>
        rw [resolveSource_of_stays (Or.inl firstKind), components_resolveSource base secondKind]
          at same
        exact .spelling directory base firstKind secondKind same
      case true.true =>
        rw [resolveSource_of_stays (Or.inl firstKind), resolveSource_of_stays (Or.inl secondKind)]
          at same
        exact .alike same
  · intro coincide
    cases coincide with
    | alike same => exact components_resolveSource_congr same
    | inside directory base relative same =>
      rw [components_resolveSource base relative.1, components_resolveSource base relative.2, same]
    | spelledOut directory base relative absolute same =>
      rw [components_resolveSource base relative, resolveSource_of_stays (Or.inl absolute), same]
    | spelling directory base absolute relative same =>
      rw [components_resolveSource base relative, resolveSource_of_stays (Or.inl absolute), same]

/-- Tidy paths of one kind coincide only if they are the same. -/
theorem Coincide.eq_of_tidy {first second : FilePath} (coincide : config.Coincide first second)
    (tidy : first.Tidy) (tidyOther : second.Tidy)
    (kinds : first.isAbsolute = second.isAbsolute) : first = second := by
  cases coincide with
  | alike same => exact tidy.eq_of_components tidyOther same
  | inside directory base relative same =>
    refine tidy.eq_of_components tidyOther ?_
    rw [FilePath.components_eq, FilePath.components_eq, tidy.starts.1, tidyOther.starts.1, kinds,
      same]
  | spelledOut directory base relative absolute same =>
    rw [relative, absolute] at kinds
    cases kinds
  | spelling directory base absolute relative same =>
    rw [relative, absolute] at kinds
    cases kinds

end Config

/-- The documents of an allowed configuration have different texts up to blanks around them.
Wherever the configuration is meant from, two texts lead to the same components exactly when they
coincide there. So documents with tidy texts, both relative or both absolute, lead to different
components. -/
theorem accepted_sources (config : Config) (accepted : config.validate = .ok ()) :
    ((config.sources.primary :: config.sources.shared).Pairwise fun first second =>
      Text.trim first ≠ Text.trim second) ∧
    (∀ first second,
      (config.resolveSource first).components = (config.resolveSource second).components ↔
        config.Coincide ⟨Text.trim first⟩ ⟨Text.trim second⟩) ∧
    (config.sources.primary :: config.sources.shared).Pairwise fun first second =>
      FilePath.Tidy ⟨Text.trim first⟩ → FilePath.Tidy ⟨Text.trim second⟩ →
      FilePath.isAbsolute ⟨Text.trim first⟩ = FilePath.isAbsolute ⟨Text.trim second⟩ →
        (config.resolveSource first).components ≠ (config.resolveSource second).components := by
  have different := Config.pairwise_trim_ne accepted
  refine ⟨different, fun first second => Config.components_resolveSource_eq_iff, ?_⟩
  refine different.imp fun {first second} differ tidy tidyOther kinds same => differ ?_
  have coincide := Config.components_resolveSource_eq_iff.mp same
  exact congrArg FilePath.text (coincide.eq_of_tidy tidy tidyOther kinds)

/-- A configuration with a document beside it and one that is shared by the whole system. -/
def installedConfig : Config :=
  { sources := { primary := "strings.en.json", shared := [" common.en.json", "/usr/share/en.json"] }
    sourceDirectory := some ⟨"conf"⟩ }

theorem accepted_sources_installed :
    installedConfig.validate = .ok () ∧
      (installedConfig.resolveSource "strings.en.json").components ≠
        (installedConfig.resolveSource " common.en.json").components := by
  have accepted : installedConfig.validate = .ok () := by decide +kernel
  obtain ⟨-, -, different⟩ := accepted_sources installedConfig accepted
  refine ⟨accepted, ?_⟩
  exact List.rel_of_pairwise_cons different List.mem_cons_self (by decide +kernel)
    (by decide +kernel) (by decide +kernel)

/-- A configuration that names its document a second time, with a dot in front. -/
def dottedConfig : Config :=
  { sources := { primary := "strings.en.json", shared := ["./strings.en.json"] }
    sourceDirectory := some ⟨"conf"⟩ }

/-- Not all allowed documents have different paths. -/
theorem not_forall_sources_distinct :
    ¬∀ config : Config, config.validate = .ok () →
      (config.sources.primary :: config.sources.shared).Pairwise fun first second =>
        (config.resolveSource first).components ≠ (config.resolveSource second).components := by
  intro claim
  have different := claim dottedConfig (by decide +kernel)
  exact List.rel_of_pairwise_cons different List.mem_cons_self (by decide +kernel)

end Phrasebook
