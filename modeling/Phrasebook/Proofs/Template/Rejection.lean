/-
This file says where a template goes wrong under the strict policy. What stands before the
reference that is refused is a template of its own, so the reference is the first opening that
is not inside of a token that ends before it. The error gives the length of what stands before
in bytes, or the text between the brackets with the fault of its path. There is no other such
opening: in front of a later one stands a text that has the earlier one in it, and with fewer
characters behind it this is as malformed as before.
-/

import Phrasebook.Proofs.Template.Grammar

namespace Phrasebook.Template

open Text Segment

variable {segments : List Segment} {before after body : List Char} {fault : TemplateError}

/-! ### What is reported -/

/-- The error reports the reference that opens behind the one text and goes on with the other:
its place in bytes if nothing closes it, and else what it encloses, with the fault that this has
as a path. -/
inductive Reports (before body : String) : TemplateError → Prop
  | unterminated (unclosed : ¬referenceClosing.toList <:+: body.toList) :
      Reports before body (.unterminatedReference before.utf8ByteSize)
  | invalid {inner after : String} {cause : KeyPathError}
      (whole : body = inner ++ referenceClosing ++ after)
      (unclosed : ¬referenceClosing.toList <:+: inner.toList)
      (refused : KeyPath.parse inner = .error cause) :
      Reports before body (.invalidReference inner cause)

theorem splitFirst_closing_eq_none_iff :
    splitFirst referenceClosing.toList body = none ↔ ¬referenceClosing.toList <:+: body := by
  rw [← occurs_iff, occurs, Bool.not_eq_true, Option.isSome_eq_false_iff, Option.isNone_iff_eq_none]

/-- The reader reports what there is to report. -/
theorem readReference_eq_error_iff {before body : String} :
    readReference before.utf8ByteSize body.toList = .error fault ↔ Reports before body fault := by
  unfold readReference
  constructor
  · intro failed
    split at failed
    · rename_i unclosed
      cases failed
      exact .unterminated (splitFirst_closing_eq_none_iff.mp unclosed)
    · rename_i inner after found
      obtain ⟨whole, unclosed⟩ := splitFirst_closing_iff.mp found
      split at failed
      · rename_i cause refused
        cases failed
        have text : body = String.ofList inner ++ referenceClosing ++ String.ofList after := by
          rw [← String.toList_inj, whole]
          simp
        exact .invalid text (by simpa using unclosed) refused
      · cases failed
  · intro reports
    cases reports with
    | unterminated unclosed => rw [splitFirst_closing_eq_none_iff.mpr unclosed]
    | @invalid inner after cause whole unclosed refused =>
      have split : body.toList = inner.toList ++ referenceClosing.toList ++ after.toList := by
        rw [whole, String.toList_append, String.toList_append]
      rw [splitFirst_closing_iff.mpr ⟨split, unclosed⟩]
      simp only [String.ofList_toList, refused]

/-! ### The reader up to an error -/

theorem Kept.of_append (kept : Kept .reject (before ++ after)) : Kept .reject before where
  unbraced name identifier starts :=
    kept.unbraced name identifier (starts.trans (List.prefix_append _ _))
  unopened := by
    rintro body rfl
    cases (kept.unopened (body ++ after) (List.append_assoc _ _ _)).1

theorem exists_spelled_cons {first : Char} (kept : Kept .reject (first :: (before ++ after)))
    (spelled : ∃ segments, Spelled .reject segments before) :
    ∃ segments, Spelled .reject segments (first :: before) := by
  obtain ⟨segments, spelled⟩ := spelled
  rw [← List.cons_append] at kept
  exact ⟨_, (spelled_cons_iff kept.of_append).mpr ⟨segments, spelled, rfl⟩⟩

theorem byteLength_bracketed (inner : List Char) :
    byteLength (bracketed inner) =
      referenceOpening.utf8ByteSize + (byteLength inner + referenceClosing.utf8ByteSize) := by
  rw [bracketed, byteLength_append, byteLength_append, byteLength_eq_utf8ByteSize,
    byteLength_eq_utf8ByteSize referenceClosing.toList, String.ofList_toList, String.ofList_toList]

theorem byteLength_braced (name : List Char) :
    byteLength (braced name) = byteLength name + 2 := by
  have brace : '{'.utf8Size = 1 ∧ byteLength ['}'] = 1 := by decide
  rw [braced, byteLength_cons, byteLength_append, brace.1, brace.2]
  omega

/-- What the reader has read before an error is a template, and the error is at its end. -/
theorem exists_of_scan_eq_error {offset : Nat} {pending characters : List Char}
    {found : List Segment}
    (failed : scan .reject offset pending found characters = .error fault) :
    ∃ before body, characters = before ++ (referenceOpening.toList ++ body) ∧
      (∃ segments, Spelled .reject segments before) ∧
      readReference (offset + byteLength before) body = .error fault := by
  fun_induction scan .reject offset pending found characters with
  | case1 => cases failed
  | case2 offset pending found first rest body opens target length after read inductionHypothesis =>
    obtain ⟨before, later, rfl, ⟨segments, spelled⟩, refused⟩ := inductionHypothesis failed
    obtain ⟨inner, names, rfl⟩ := exists_names_of_readReference read
    rw [readReference_of_names names] at read
    cases read
    refine ⟨bracketed inner ++ before, later, ?_, ⟨_, .reference names rfl spelled⟩, ?_⟩
    · rw [(afterStart?_eq_some_iff referenceOpening.toList _ _).mp opens, bracketed]
      simp only [List.append_assoc]
    · rw [byteLength_append, byteLength_bracketed, ← Nat.add_assoc, ← Nat.add_assoc]
      exact refused
  | case3 offset pending found first rest body opens fault refused =>
    cases failed
    have whole := (afterStart?_eq_some_iff _ _ _).mp opens
    exact ⟨[], body, whole, ⟨[], .nothing⟩, refused⟩
  | case4 _ _ _ _ _ _ _ _ _ reject => cases reject
  | case5 offset pending found rest name after read closed inductionHypothesis =>
    obtain ⟨before, later, rfl, ⟨segments, spelled⟩, refused⟩ := inductionHypothesis failed
    obtain ⟨identifier, rfl⟩ := readPlaceholder_eq_some_iff.mp read
    refine ⟨braced name ++ before, later, ?_,
      ⟨_, (spelled_placeholder_iff identifier).mpr ⟨_, spelled, rfl⟩⟩, ?_⟩
    · rw [← braced_append, List.append_assoc]
    · rw [byteLength_append, byteLength_braced, ← Nat.add_assoc, ← Nat.add_assoc]
      exact refused
  | case6 offset pending found rest absent closed inductionHypothesis =>
    obtain ⟨before, later, rfl, spelled, refused⟩ := inductionHypothesis failed
    refine ⟨'{' :: before, later, rfl, exists_spelled_cons (kept_brace absent closed) spelled, ?_⟩
    rw [byteLength_cons, ← Nat.add_assoc]
    exact refused
  | case7 offset pending found first rest closed noBrace inductionHypothesis =>
    obtain ⟨before, later, rfl, spelled, refused⟩ := inductionHypothesis failed
    refine ⟨first :: before, later, rfl,
      exists_spelled_cons (kept_other noBrace closed) spelled, ?_⟩
    rw [byteLength_cons, ← Nat.add_assoc]
    exact refused

/-! ### Malformed openings -/

theorem Malformed.of_append (malformed : Malformed (body ++ after)) : Malformed body := by
  rintro inner target rest names rfl
  exact malformed inner target (rest ++ after) names (List.append_assoc _ _ _)

theorem bordered_opening (body : List Char) (bordered : Bordered after) :
    Bordered (after ++ (referenceOpening.toList ++ body)) := by
  cases after with
  | nil =>
    intro character member
    cases member
    exact Or.inr rfl
  | cons first rest => exact bordered

/-- Where a template ends in front of a malformed opening, nothing is spelled. -/
theorem not_spelled_behind (spelled : Spelled .reject segments before)
    (malformed : Malformed body) (others : List Segment) :
    ¬Spelled .reject others (before ++ (referenceOpening.toList ++ body)) := by
  induction spelled generalizing others with
  | nothing => exact not_spelled_of_malformed malformed
  | text filled apart whole kept onward inductionHypothesis =>
    have bordered := onward.bordered apart
    have plain := (kept_tails_iff_plain bordered).mp kept
    have keptLonger := (kept_tails_iff_plain (bordered_opening body bordered)).mpr plain
    rw [whole, List.append_assoc, spelled_append_iff keptLonger]
    rintro ⟨rest, spelled, -⟩
    exact inductionHypothesis rest spelled
  | placeholder identifier whole _ inductionHypothesis =>
    rw [whole, List.append_assoc, spelled_placeholder_iff identifier]
    rintro ⟨rest, spelled, -⟩
    exact inductionHypothesis rest spelled
  | reference names whole _ inductionHypothesis =>
    rw [whole, List.append_assoc, spelled_reference_iff names]
    rintro ⟨rest, spelled, -⟩
    exact inductionHypothesis rest spelled

/-- Behind a template a malformed opening comes at once, or no template goes on from it up to
another opening. -/
theorem eq_nil_of_spelled_append {others : List Segment} {tail later : List Char}
    (spelled : Spelled .reject segments before) (malformed : Malformed body)
    (longer : Spelled .reject others (before ++ tail))
    (same : referenceOpening.toList ++ body = tail ++ (referenceOpening.toList ++ later)) :
    tail = [] := by
  by_contra filled
  have bordered : Bordered ([] ++ (referenceOpening.toList ++ later)) :=
    bordered_opening later fun _ member => nomatch member
  obtain ⟨inner, rfl⟩ := opening_prefix_of_bordered bordered filled ⟨body, same⟩
  rw [List.append_assoc, List.append_cancel_left_eq] at same
  rw [same] at malformed
  exact not_spelled_behind spelled malformed.of_append others longer

/-! ### Rejection -/

/-- The reference that opens behind the text `before` is refused with the error: what stands
before it is a template, and the error reports it. -/
structure Refused (raw before body : String) (fault : TemplateError) : Prop where
  whole : raw = before ++ referenceOpening ++ body
  readable : ∃ template, parse before .reject = .ok template
  reports : Reports before body fault

variable {raw : String}

theorem Refused.toList {before body : String} (refused : Refused raw before body fault) :
    raw.toList = before.toList ++ (referenceOpening.toList ++ body.toList) := by
  rw [refused.whole, String.toList_append, String.toList_append, List.append_assoc]

theorem Refused.spelled {before body : String} (refused : Refused raw before body fault) :
    ∃ segments, Spelled .reject segments before.toList := by
  obtain ⟨template, parsed⟩ := refused.readable
  exact ⟨template.segments, parse_eq_ok_iff.mp parsed⟩

theorem Refused.malformed {before body : String} (refused : Refused raw before body fault) :
    Malformed body.toList :=
  malformed_of_readReference (readReference_eq_error_iff.mpr refused.reports)

theorem Refused.unique {first second body rest : String} {other : TemplateError}
    (one : Refused raw first body fault) (another : Refused raw second rest other) :
    first = second := by
  obtain ⟨segments, spelled⟩ := one.spelled
  obtain ⟨others, spelledOther⟩ := another.spelled
  have same := another.toList
  rw [one.toList, List.append_eq_append_iff] at same
  rw [← String.toList_inj]
  rcases same with ⟨tail, longer, same⟩ | ⟨tail, longer, same⟩
  · rw [longer] at spelledOther ⊢
    rw [eq_nil_of_spelled_append spelled one.malformed spelledOther same, List.append_nil]
  · rw [longer] at spelled ⊢
    rw [eq_nil_of_spelled_append spelledOther another.malformed spelled same, List.append_nil]

theorem exists_refused_of_parse (failed : parse raw .reject = .error fault) :
    ∃ before body, Refused raw before body fault := by
  have scanned : scan .reject 0 [] [] raw.toList = .error fault := by
    unfold parse at failed
    split at failed
    · rename_i other scanned
      cases failed
      exact scanned
    · cases failed
  obtain ⟨before, body, whole, ⟨segments, spelled⟩, refused⟩ := exists_of_scan_eq_error scanned
  refine ⟨String.ofList before, String.ofList body, ?_, ?_, ?_⟩
  · rw [← String.toList_inj, whole]
    simp
  · refine ⟨⟨segments, spelled.settled⟩, parse_eq_ok_iff.mpr ?_⟩
    rw [String.toList_ofList]
    exact spelled
  · rw [← readReference_eq_error_iff, String.toList_ofList, ← byteLength_eq_utf8ByteSize]
    rw [Nat.zero_add] at refused
    exact refused

theorem parse_of_refused {before body : String} (refused : Refused raw before body fault) :
    parse raw .reject = .error fault := by
  cases parsed : parse raw .reject with
  | ok template =>
    obtain ⟨segments, spelled⟩ := refused.spelled
    have spelledRaw := parse_eq_ok_iff.mp parsed
    rw [refused.toList] at spelledRaw
    exact absurd spelledRaw (not_spelled_behind spelled refused.malformed _)
  | error other =>
    obtain ⟨first, rest, refusedOther⟩ := exists_refused_of_parse parsed
    cases refusedOther.unique refused
    have same := refusedOther.toList
    rw [refused.toList, List.append_cancel_left_eq, List.append_cancel_left_eq,
      String.toList_inj] at same
    cases same
    have reported := readReference_eq_error_iff.mpr refusedOther.reports
    rw [readReference_eq_error_iff.mpr refused.reports] at reported
    cases reported
    rfl

/-- Under the strict policy a text is rejected exactly for a reference that opens behind a
template and is not closed or encloses no path. The error reports this reference, with the
message of the fault if there is one, and it opens in one place only. -/
theorem rejection_located (raw : String) :
    (∀ fault, parse raw .reject = .error fault ↔ ∃ before body, Refused raw before body fault) ∧
    (∀ first second body rest fault other, Refused raw first body fault →
      Refused raw second rest other → first = second) ∧
    ∀ inner cause, (TemplateError.invalidReference inner cause).message =
      "invalid reference `" ++ inner ++ "`: " ++ cause.message := by
  refine ⟨fun fault => ⟨exists_refused_of_parse, ?_⟩, ?_, fun _ _ => rfl⟩
  · rintro ⟨before, body, refused⟩
    exact parse_of_refused refused
  · intro first second body rest fault other one another
    exact one.unique another

/-- A path whose second segment has an opening in it. -/
def menuOpening : KeyPath := ⟨["menu", "[%key:x"], by decide, by decide⟩

/-- The first opening is that of a reference that has the second one in it, and the third one is
refused. -/
theorem rejection_located_menuOpening :
    Refused "é [%key:menu.[%key:x%]: [%key:a..b%]" "é [%key:menu.[%key:x%]: " "a..b%]"
      (.invalidReference "a..b" .emptySegment) ∧
    parse "é [%key:menu.[%key:x%]: [%key:a..b%]" .reject =
      .error (.invalidReference "a..b" .emptySegment) ∧
    ∀ before body fault, Refused "é [%key:menu.[%key:x%]: [%key:a..b%]" before body fault →
      before = "é [%key:menu.[%key:x%]: " := by
  have readable : parse "é [%key:menu.[%key:x%]: " .reject =
      .ok (.ofSegments [.text "é ", .reference menuOpening, .text ": "]) := by decide +kernel
  have refused : Refused "é [%key:menu.[%key:x%]: [%key:a..b%]" "é [%key:menu.[%key:x%]: " "a..b%]"
      (.invalidReference "a..b" .emptySegment) :=
    ⟨by decide +kernel, ⟨_, readable⟩,
      @Reports.invalid _ _ "a..b" "" .emptySegment (by decide) (by decide) (by decide +kernel)⟩
  obtain ⟨rejected, unique, -⟩ := rejection_located "é [%key:menu.[%key:x%]: [%key:a..b%]"
  refine ⟨refused, (rejected _).mpr ⟨_, _, refused⟩, ?_⟩
  exact fun before body fault other => unique _ _ _ _ _ _ other refused

end Phrasebook.Template
