/-
This file compares the bytes that a resolution may use up with the bytes of its
template text. A walk pays for texts and for the names of placeholders, piece by
piece, before neighbouring texts are joined. The template text is made afterwards
and writes each placeholder in braces, for which nobody has paid. So the text is
longer than what was paid for by two bytes for each placeholder, and by no more.
-/

import Phrasebook.Proofs.Load.WellFormed
import Phrasebook.Proofs.Resolve.Agreement
import Phrasebook.Proofs.Resolve.Substitution
import Phrasebook.Proofs.Resolve.Validation

namespace Phrasebook

/-! ### The bytes of fragments -/

namespace Fragment

/-- Whether the fragment stands for a value. -/
def isPlaceholder : Fragment → Bool
  | .text _ => false
  | .placeholder _ => true

theorem totalBytes_prepend (content : String) (fragments : List Fragment) :
    totalBytes (prepend content fragments) = content.utf8ByteSize + totalBytes fragments := by
  match fragments with
  | [] => exact totalBytes_cons _ _
  | .placeholder _ :: _ => exact totalBytes_cons _ _
  | .text later :: more =>
    rw [prepend, totalBytes_cons, totalBytes_cons, bytes, bytes, String.utf8ByteSize_append,
      Nat.add_assoc]

/-- Joining texts does not change their bytes. -/
theorem totalBytes_join (fragments : List Fragment) :
    totalBytes (join fragments) = totalBytes fragments := by
  induction fragments with
  | nil => rfl
  | cons fragment rest inductionHypothesis =>
    rw [totalBytes_cons]
    cases fragment with
    | text content => rw [join, totalBytes_prepend, inductionHypothesis, bytes]
    | placeholder name => rw [join, totalBytes_cons, inductionHypothesis]

/-- Without a value a placeholder is shown as its name in two braces. -/
theorem utf8ByteSize_fill_none (fragment : Fragment) :
    (fragment.fill Values.none).utf8ByteSize =
      fragment.bytes + 2 * if fragment.isPlaceholder then 1 else 0 := by
  cases fragment with
  | text content => rfl
  | placeholder name =>
    have written : (Fragment.placeholder name).fill Values.none =
        "\x7b" ++ name ++ "\x7d" := rfl
    have opening : "\x7b".utf8ByteSize = 1 := rfl
    have closing : "\x7d".utf8ByteSize = 1 := rfl
    rw [written, String.utf8ByteSize_append, String.utf8ByteSize_append, opening, closing,
      bytes, isPlaceholder, if_pos rfl]
    omega

/-- Written out, fragments take two bytes more for each placeholder than they use up. -/
theorem utf8ByteSize_fillAll_none (fragments : List Fragment) :
    (fillAll Values.none fragments).utf8ByteSize =
      totalBytes fragments + 2 * fragments.countP isPlaceholder := by
  induction fragments with
  | nil => rfl
  | cons fragment rest inductionHypothesis =>
    rw [fillAll_cons, String.utf8ByteSize_append, utf8ByteSize_fill_none, inductionHypothesis,
      totalBytes_cons, List.countP_cons]
    omega

end Fragment

/-! ### The bytes of resolutions -/

namespace Resolver

variable {resolver : Resolver} {resolution : Resolution}

/-- Joining texts after they were paid for leaves a resolution within the limit. -/
theorem totalBytes_le_of_resolvePath {path : KeyPath}
    (resolved : resolver.resolvePath path = .ok resolution) :
    min (Fragment.totalBytes resolution.fragments) Walk.maxCount ≤
      resolver.limits.maxOutputBytes := by
  obtain ⟨tree, -, within, -, -, fragments⟩ := resolvePath_eq_ok_iff.mp resolved
  rw [fragments, Fragment.totalBytes_join]
  exact within.bytes

theorem totalBytes_le_of_resolve {key : String}
    (resolved : resolver.resolve key = .ok resolution) :
    min (Fragment.totalBytes resolution.fragments) Walk.maxCount ≤
      resolver.limits.maxOutputBytes := by
  rcases resolver.resolve_cases key with absent | ⟨path, -, same⟩
  · rw [absent] at resolved
    cases resolved
  · exact totalBytes_le_of_resolvePath (same.symm.trans resolved)

/-- The texts and placeholder names of a resolution, counted up to the greatest count, stay
within the limit for output. The template text has two bytes more for each placeholder, so it
stays within the limit and these bytes together. -/
theorem output_bounded {key : String} (resolved : resolver.resolve key = .ok resolution) :
    resolution.templateText.utf8ByteSize = Fragment.totalBytes resolution.fragments +
      2 * resolution.fragments.countP Fragment.isPlaceholder ∧
    min (Fragment.totalBytes resolution.fragments) Walk.maxCount ≤
      resolver.limits.maxOutputBytes ∧
    min resolution.templateText.utf8ByteSize Walk.maxCount ≤ resolver.limits.maxOutputBytes +
      2 * resolution.fragments.countP Fragment.isPlaceholder := by
  have paid := totalBytes_le_of_resolve resolved
  have length : resolution.templateText.utf8ByteSize =
      Fragment.totalBytes resolution.fragments +
        2 * resolution.fragments.countP Fragment.isPlaceholder :=
    Fragment.utf8ByteSize_fillAll_none resolution.fragments
  refine ⟨length, paid, ?_⟩
  omega

/-- The path of an entry that is a placeholder and nothing else. -/
def addressee : KeyPath :=
  ⟨["addressee"], by decide, by decide⟩

/-- A document with that entry, as it stands in a file. -/
def addresseeDocument : ByteArray :=
  "\x7b\"addressee\":\"\x7bname\x7d\"\x7d".toUTF8

/-- A resolver that can pay for the name, but not for braces. -/
def addresseeResolver (table : Table) : Resolver :=
  { tables := [table], limits := { maxOutputBytes := 4 } }

/-- What it makes of the entry. -/
def addresseeResolution : Resolution :=
  ⟨addressee, addressee, [.placeholder "name"]⟩

theorem exists_load_addresseeDocument :
    ∃ table, Table.load addresseeDocument {} = .ok table ∧
      (addresseeResolver table).resolve "addressee" = .ok addresseeResolution := by
  have resolved : (Table.load addresseeDocument {}).map
      (fun table => (addresseeResolver table).resolve "addressee") =
        .ok (.ok addresseeResolution) := by decide +kernel
  exact exists_of_map_eq_ok resolved

theorem output_bounded_addressee :
    ∃ table, Table.load addresseeDocument {} = .ok table ∧
      (addresseeResolver table).resolve "addressee" = .ok addresseeResolution ∧
      addresseeResolution.templateText.utf8ByteSize =
        Fragment.totalBytes addresseeResolution.fragments + 2 ∧
      min (Fragment.totalBytes addresseeResolution.fragments) Walk.maxCount ≤ 4 ∧
      min addresseeResolution.templateText.utf8ByteSize Walk.maxCount ≤ 4 + 2 := by
  obtain ⟨table, loaded, resolved⟩ := exists_load_addresseeDocument
  exact ⟨table, loaded, resolved, output_bounded resolved⟩

/-- The template text alone need not stay within the limit. -/
theorem not_templateText_bounded :
    ¬∀ (documents : List ByteArray) (options : LoadOptions) (resolver : Resolver) (key : String)
      (resolution : Resolution),
      List.Forall₂ (fun bytes table => Table.load bytes options = .ok table) documents
        resolver.tables → resolver.resolve key = .ok resolution →
      resolution.templateText.utf8ByteSize ≤ resolver.limits.maxOutputBytes := by
  intro bounded
  obtain ⟨table, loaded, resolved⟩ := exists_load_addresseeDocument
  have short := bounded [addresseeDocument] {} (addresseeResolver table) "addressee"
    addresseeResolution (.cons loaded .nil) resolved
  have long : ¬addresseeResolution.templateText.utf8ByteSize ≤ 4 := by decide +kernel
  exact long short

end Resolver

end Phrasebook
