/-
This file says which documents of a configuration are refused and what is said of them.
A shared document offends when its path is not allowed or its text, up to blanks, is
that of a document before it. The documents are checked in their order, each against
those before it, so the error is about the first that offends. Nothing before that one
offends, so no two texts before it are the same, and if its own text stands before it
among the shared documents, then it does so in one place only.
-/

import Mathlib.Data.List.Basic
import Phrasebook.Config.Validation

namespace Phrasebook

namespace Config

/-! ### Paths -/

/-- The text, without the blanks around it, may be a path: it is not empty, and neither the
whole nor one of its components is too long. -/
structure AllowedPath (text : String) : Prop where
  filled : Text.trim text ≠ ""
  short : (Text.trim text).utf8ByteSize ≤ maxPathBytes
  components : ∀ component ∈ FilePath.components ⟨Text.trim text⟩,
    component.text.utf8ByteSize ≤ maxComponentBytes

section

variable {setting : PathSetting} {text : String}

theorem hasLongComponent_eq_false_iff {path : FilePath} :
    hasLongComponent path = false ↔
      ∀ component ∈ path.components, component.text.utf8ByteSize ≤ maxComponentBytes := by
  simp [hasLongComponent]

theorem checkPath_eq_ok_iff (setting : PathSetting) {text : String} :
    checkPath setting text = .ok () ↔ AllowedPath text := by
  unfold checkPath
  simp only
  constructor
  · intro accepted
    split_ifs at accepted with empty long component
    refine ⟨mt String.isEmpty_iff.mpr empty, Nat.not_lt.mp long, ?_⟩
    exact hasLongComponent_eq_false_iff.mp (Bool.eq_false_iff.mpr component)
  · rintro ⟨filled, short, components⟩
    rw [if_neg (mt String.isEmpty_iff.mp filled), if_neg (Nat.not_lt.mpr short),
      hasLongComponent_eq_false_iff.mpr components, if_neg Bool.false_ne_true]

/-- What is said of a path names the setting that holds it. -/
theorem reason_of_checkPath {fault : ConfigFault}
    (refused : checkPath setting text = .error fault) :
    ∃ said, fault.reason = setting.name ++ said := by
  unfold checkPath at refused
  simp only at refused
  split_ifs at refused
  · cases refused
    exact ⟨_, rfl⟩
  · cases refused
    exact ⟨_, rfl⟩
  · cases refused
    exact ⟨_, rfl⟩

end

/-! ### One document behind others -/

section

variable {primary source : String} {earlier : List String}

/-- A shared document is allowed behind others if its path is, and its text is not among theirs. -/
theorem checkShared_eq_ok_iff :
    checkShared primary earlier source = .ok () ↔
      AllowedPath source ∧ ∀ other ∈ primary :: earlier, Text.trim other ≠ Text.trim source := by
  rw [← checkPath_eq_ok_iff (.shared earlier.length), List.forall_mem_cons]
  unfold checkShared
  simp only
  cases checkPath (.shared earlier.length) source with
  | error fault => exact ⟨nofun, nofun⟩
  | ok allowed =>
    simp only [sameSource, beq_iff_eq, true_and]
    split_ifs with same
    · exact ⟨nofun, fun differ => absurd same.symm differ.1⟩
    · cases found : earlier.findIdx? fun other => Text.trim other == Text.trim source with
      | none =>
        have differ := List.findIdx?_eq_none_iff.mp found
        simp only [beq_eq_false_iff_ne] at differ
        exact ⟨fun _ => ⟨Ne.symm same, differ⟩, fun _ => rfl⟩
      | some first =>
        obtain ⟨bound, equal, -⟩ := List.findIdx?_eq_some_iff_getElem.mp found
        have differ : ¬∀ other ∈ earlier, Text.trim other ≠ Text.trim source := fun each =>
          each _ (List.getElem_mem bound) (beq_iff_eq.mp equal)
        exact ⟨nofun, fun each => absurd each.2 differ⟩

/-- What can be said of a document that is refused behind others. -/
theorem checkShared_eq_error {fault : ConfigFault}
    (refused : checkShared primary earlier source = .error fault) :
    checkPath (.shared earlier.length) source = .error fault ∨
    (AllowedPath source ∧ Text.trim source = Text.trim primary ∧
      fault = .duplicatesPrimary earlier.length) ∨
    AllowedPath source ∧ Text.trim source ≠ Text.trim primary ∧
      ∃ first other, earlier[first]? = some other ∧ Text.trim other = Text.trim source ∧
        fault = .duplicatesShared earlier.length first := by
  unfold checkShared at refused
  simp only at refused
  split at refused
  · rename_i notAllowed
    cases refused
    exact Or.inl notAllowed
  · rename_i accepted
    have allowed := (checkPath_eq_ok_iff _).mp accepted
    simp only [sameSource, beq_iff_eq] at refused
    split_ifs at refused with same
    · cases refused
      exact Or.inr (Or.inl ⟨allowed, same, rfl⟩)
    · split at refused
      · rename_i first found
        cases refused
        obtain ⟨bound, equal, -⟩ := List.findIdx?_eq_some_iff_getElem.mp found
        exact Or.inr (Or.inr ⟨allowed, same, first, _, List.getElem?_eq_getElem bound,
          beq_iff_eq.mp equal, rfl⟩)
      · cases refused

/-! ### All documents in their order -/

variable {sources : List String}

/-- Documents are allowed behind others, whose texts are different, exactly when their paths are
and all texts are different. -/
theorem checkAllShared_eq_ok_iff
    (apart : (primary :: earlier).Pairwise fun first second =>
      Text.trim first ≠ Text.trim second) :
    checkAllShared primary earlier sources = .ok () ↔
      (∀ source ∈ sources, AllowedPath source) ∧
        (primary :: (earlier ++ sources)).Pairwise fun first second =>
          Text.trim first ≠ Text.trim second := by
  induction sources generalizing earlier with
  | nil => simpa [checkAllShared] using apart
  | cons source rest inductionHypothesis =>
    rw [checkAllShared]
    cases checked : checkShared primary earlier source with
    | error fault =>
      refine ⟨nofun, fun ⟨allowed, different⟩ => ?_⟩
      rw [← List.cons_append, List.pairwise_append] at different
      have accepted : checkShared primary earlier source = .ok () := checkShared_eq_ok_iff.mpr
        ⟨allowed source List.mem_cons_self,
          fun other member => different.2.2 other member source List.mem_cons_self⟩
      rw [checked] at accepted
      cases accepted
    | ok _ =>
      obtain ⟨allowed, differ⟩ := checkShared_eq_ok_iff.mp checked
      have extended : (primary :: (earlier ++ [source])).Pairwise fun first second =>
          Text.trim first ≠ Text.trim second := by
        rw [← List.cons_append, List.pairwise_append]
        refine ⟨apart, List.pairwise_singleton _ _, fun other member last same => ?_⟩
        rw [List.mem_singleton.mp same]
        exact differ other member
      simp only
      rw [inductionHypothesis extended, List.append_assoc, List.singleton_append,
        List.forall_mem_cons, and_iff_right allowed]

/-- The error is that of the first document that is refused behind those before it. -/
theorem checkAllShared_eq_error {fault : ConfigFault}
    (refused : checkAllShared primary earlier sources = .error fault) :
    ∃ index source, sources[index]? = some source ∧
      checkShared primary (earlier ++ sources.take index) source = .error fault ∧
      ∀ before < index, ∀ other, sources[before]? = some other →
        checkShared primary (earlier ++ sources.take before) other = .ok () := by
  -- One document further on, the documents before are one more.
  induction sources generalizing earlier with
  | nil => cases refused
  | cons source rest inductionHypothesis =>
    rw [checkAllShared] at refused
    split at refused
    · rename_i refusedHere
      cases refused
      refine ⟨0, source, rfl, ?_, fun before impossible => absurd impossible (Nat.not_lt_zero _)⟩
      rw [List.take_zero, List.append_nil]
      exact refusedHere
    · rename_i accepted
      obtain ⟨index, other, listed, refusedThere, acceptedBefore⟩ := inductionHypothesis refused
      refine ⟨index + 1, other, listed, ?_, ?_⟩
      · rw [List.take_succ_cons, ← List.singleton_append, ← List.append_assoc]
        exact refusedThere
      · intro before earlierOne another listedBefore
        cases before with
        | zero =>
          cases listedBefore
          rw [List.take_zero, List.append_nil]
          exact accepted
        | succ before =>
          rw [List.take_succ_cons, ← List.singleton_append, ← List.append_assoc]
          exact acceptedBefore before (Nat.lt_of_succ_lt_succ earlierOne) another listedBefore

end

end Config

/-! ### The document that offends -/

namespace SourcesConfig

open Config

variable {sources : SourcesConfig} {index : Nat}

/-- The path of the shared document at an index is not allowed, or its text is that of the
primary document or of a shared one before it. -/
def Offends (sources : SourcesConfig) (index : Nat) : Prop :=
  ∃ source, sources.shared[index]? = some source ∧
    (¬AllowedPath source ∨
      ∃ other ∈ sources.primary :: sources.shared.take index,
        Text.trim other = Text.trim source)

/-- What is said of the shared document at an index: first that its path is not allowed, then
that it is the primary document, then that it is the one other before it with its text. -/
inductive Blamed (sources : SourcesConfig) (index : Nat) : ConfigFault → Prop
  | path {source : String} {fault : ConfigFault} (listed : sources.shared[index]? = some source)
      (refused : checkPath (.shared index) source = .error fault) : Blamed sources index fault
  | primary {source : String} (listed : sources.shared[index]? = some source)
      (allowed : AllowedPath source) (same : Text.trim source = Text.trim sources.primary) :
      Blamed sources index (.duplicatesPrimary index)
  | shared {source other : String} {first : Nat}
      (listed : sources.shared[index]? = some source) (allowed : AllowedPath source)
      (notPrimary : Text.trim source ≠ Text.trim sources.primary) (before : first < index)
      (listedBefore : sources.shared[first]? = some other)
      (same : Text.trim other = Text.trim source)
      (only : ∀ second < index, ∀ another, sources.shared[second]? = some another →
        Text.trim another = Text.trim source → second = first) :
      Blamed sources index (.duplicatesShared index first)

theorem offends_iff {source : String} (listed : sources.shared[index]? = some source) :
    sources.Offends index ↔
      checkShared sources.primary (sources.shared.take index) source ≠ .ok () := by
  rw [Ne, checkShared_eq_ok_iff, not_and_or]
  simp only [Offends, listed, Option.some.injEq, exists_eq_left', not_forall, not_not, exists_prop]

/-- A document with the text of one before it offends. -/
theorem offends_of_trim_eq {first : Nat} {source other : String} (before : first < index)
    (listed : sources.shared[index]? = some source)
    (listedBefore : sources.shared[first]? = some other)
    (same : Text.trim other = Text.trim source) : sources.Offends index := by
  refine ⟨source, listed, Or.inr ⟨other, List.mem_cons_of_mem _ ?_, same⟩⟩
  exact List.mem_of_getElem? ((List.getElem?_take_of_lt before).trans listedBefore)

/-- Where nothing offends, documents with one text are one. -/
theorem eq_of_trim_eq (calm : ∀ before < index, ¬sources.Offends before) {first second : Nat}
    {one other : String} (firstBefore : first < index) (secondBefore : second < index)
    (listedFirst : sources.shared[first]? = some one)
    (listedSecond : sources.shared[second]? = some other)
    (same : Text.trim one = Text.trim other) : first = second := by
  -- Of two different documents the later one would offend.
  rcases Nat.lt_trichotomy first second with less | equal | greater
  · exact absurd (offends_of_trim_eq less listedSecond listedFirst same)
      (calm second secondBefore)
  · exact equal
  · exact absurd (offends_of_trim_eq greater listedFirst listedSecond same.symm)
      (calm first firstBefore)

/-- Behind documents that do not offend, what is refused is blamed for what it is. -/
theorem blamed_of_checkShared {source : String} {fault : ConfigFault}
    (calm : ∀ before < index, ¬sources.Offends before)
    (listed : sources.shared[index]? = some source)
    (refused : checkShared sources.primary (sources.shared.take index) source = .error fault) :
    sources.Blamed index fault := by
  obtain ⟨bound, -⟩ := List.getElem?_eq_some_iff.mp listed
  have count : (sources.shared.take index).length = index :=
    List.length_take_of_le (Nat.le_of_lt bound)
  have cases := checkShared_eq_error refused
  rw [count] at cases
  rcases cases with notAllowed | ⟨allowed, same, rfl⟩ |
    ⟨allowed, notPrimary, first, other, found, same, rfl⟩
  · exact .path listed notAllowed
  · exact .primary listed allowed same
  · rw [List.getElem?_take] at found
    split_ifs at found with before
    refine .shared listed allowed notPrimary before found same ?_
    intro second secondBefore another listedSecond sameSecond
    exact eq_of_trim_eq calm secondBefore before listedSecond found (sameSecond.trans same.symm)

/-- The sentence names the document that is blamed. -/
theorem Blamed.reason {fault : ConfigFault} (blamed : sources.Blamed index fault) :
    ∃ said, fault.reason = (PathSetting.shared index).name ++ said := by
  cases blamed with
  | path _ refused => exact reason_of_checkPath refused
  | primary => exact ⟨" duplicates " ++ PathSetting.primary.name, String.append_assoc⟩
  | @shared _ _ first =>
    exact ⟨" duplicates " ++ (PathSetting.shared first).name, String.append_assoc⟩

end SourcesConfig

namespace Config

/-- With an allowed primary document and not too many shared ones, documents are accepted exactly
when all paths are allowed and all texts are different up to blanks. Otherwise the error is about
the first shared document that offends, and its sentence names that document. -/
theorem checkSources_earliest (sources : SourcesConfig) (primary : AllowedPath sources.primary)
    (few : sources.shared.length ≤ maxSharedSources) :
    (checkSources sources = .ok () ↔
      (∀ source ∈ sources.shared, AllowedPath source) ∧
        (sources.primary :: sources.shared).Pairwise fun first second =>
          Text.trim first ≠ Text.trim second) ∧
    ∀ fault, checkSources sources = .error fault →
      ∃ index, sources.Offends index ∧ (∀ before < index, ¬sources.Offends before) ∧
        sources.Blamed index fault ∧
        ∃ said, fault.reason = (PathSetting.shared index).name ++ said := by
  have opened : checkSources sources = checkAllShared sources.primary [] sources.shared := by
    rw [checkSources, (checkPath_eq_ok_iff _).mpr primary]
    exact if_neg (Nat.not_lt.mpr few)
  rw [opened]
  refine ⟨checkAllShared_eq_ok_iff (List.pairwise_singleton _ _), fun fault refused => ?_⟩
  obtain ⟨index, source, listed, refusedHere, acceptedBefore⟩ := checkAllShared_eq_error refused
  have offends : sources.Offends index := by
    rw [SourcesConfig.offends_iff listed, ← List.nil_append (sources.shared.take index),
      refusedHere]
    exact nofun
  have calm : ∀ before < index, ¬sources.Offends before := by
    intro before earlier offendsBefore
    obtain ⟨other, listedBefore, -⟩ := id offendsBefore
    exact (SourcesConfig.offends_iff listedBefore).mp offendsBefore
      (acceptedBefore before earlier other listedBefore)
  have blamed := SourcesConfig.blamed_of_checkShared calm listed refusedHere
  exact ⟨index, offends, calm, blamed, blamed.reason⟩

/-- Documents of which two have one text, the second with a wide blank before it, behind which
one has no text at all. -/
def repeatedSources : SourcesConfig :=
  { primary := "strings.en.json"
    shared := ["common.en.json", "extra.en.json", "\u2003extra.en.json", " "] }

theorem checkSources_earliest_repeatedSources :
    AllowedPath repeatedSources.primary ∧
    repeatedSources.shared.length ≤ maxSharedSources ∧
    checkSources repeatedSources = .error (.duplicatesShared 2 1) ∧
    ∃ index, repeatedSources.Offends index ∧
      (∀ before < index, ¬repeatedSources.Offends before) ∧
      repeatedSources.Blamed index (.duplicatesShared 2 1) := by
  have checked : checkPath .primary repeatedSources.primary = .ok () := by decide +kernel
  have allowed := (checkPath_eq_ok_iff _).mp checked
  have few : repeatedSources.shared.length ≤ maxSharedSources := by decide
  have refused : checkSources repeatedSources = .error (.duplicatesShared 2 1) := by
    decide +kernel
  obtain ⟨index, offends, calm, blamed, -⟩ :=
    (checkSources_earliest repeatedSources allowed few).2 _ refused
  exact ⟨allowed, few, refused, index, offends, calm, blamed⟩

end Config

end Phrasebook
