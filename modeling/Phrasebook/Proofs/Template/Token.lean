/-
This file says which characters are tokens of a template. A placeholder is an
identifier in braces, and a reference is a key path, in either of its spellings and
with blanks around it, between an opening and the first closing behind it. Each
reader of a token finds exactly the tokens that are written so, and as an
identifier holds no brace and what stands in a reference no closing, a token ends
in one place only.
-/

import Phrasebook.Proofs.Text.Search
import Phrasebook.Template.Reader

namespace Phrasebook.Template

open Text

/-! ### Placeholders -/

/-- A placeholder as it is written. -/
def braced (name : List Char) : List Char :=
  '{' :: (name ++ ['}'])

theorem isIdentifierRest_of_mem {name : List Char} (identifier : isIdentifierChars name)
    {character : Char} (member : character ∈ name) : isIdentifierRest character := by
  cases name with
  | nil => cases member
  | cons first rest =>
    obtain ⟨start, others⟩ := (Bool.and_eq_true _ _).mp identifier
    rcases List.mem_cons.mp member with rfl | later
    · rcases (Bool.or_eq_true _ _).mp start with underscore | letter
      · exact (Bool.or_eq_true _ _).mpr (Or.inl underscore)
      · refine (Bool.or_eq_true _ _).mpr (Or.inr ?_)
        exact (Bool.or_eq_true _ _).mpr (Or.inl letter)
    · exact List.all_eq_true.mp others character later

/-- A placeholder is read where it is written and nowhere else. -/
theorem readPlaceholder_eq_some_iff {body name after : List Char} :
    readPlaceholder body = some (name, after) ↔
      isIdentifierChars name ∧ body = name ++ '}' :: after := by
  constructor
  · intro read
    have whole := List.takeWhile_append_dropWhile (p := isIdentifierRest) (l := body)
    unfold readPlaceholder at read
    split at read
    · rename_i rest ends
      split at read
      · rename_i identifier
        cases read
        rw [ends] at whole
        exact ⟨identifier, whole.symm⟩
      · cases read
    · cases read
  · rintro ⟨identifier, rfl⟩
    have inside : ∀ character ∈ name, isIdentifierRest character :=
      fun character => isIdentifierRest_of_mem identifier
    have stop : isIdentifierRest '}' = false := by decide
    have taken : (name ++ '}' :: after).takeWhile isIdentifierRest = name := by
      rw [List.takeWhile_append_of_pos inside, List.takeWhile_cons_of_neg (by simp [stop]),
        List.append_nil]
    have dropped : (name ++ '}' :: after).dropWhile isIdentifierRest = '}' :: after := by
      rw [List.dropWhile_append_of_pos inside, List.dropWhile_cons_of_neg (by simp [stop])]
    unfold readPlaceholder
    rw [taken, dropped]
    exact if_pos identifier

theorem braced_append (name after : List Char) :
    braced name ++ after = '{' :: (name ++ '}' :: after) := by
  simp [braced]

theorem braced_append_inj {first second after rest : List Char}
    (identifierFirst : isIdentifierChars first) (identifierSecond : isIdentifierChars second)
    (same : braced first ++ after = braced second ++ rest) : first = second ∧ after = rest := by
  rw [braced_append, braced_append] at same
  have read : readPlaceholder (first ++ '}' :: after) = some (second, rest) :=
    readPlaceholder_eq_some_iff.mpr ⟨identifierSecond, (List.cons.inj same).2⟩
  rw [readPlaceholder_eq_some_iff.mpr ⟨identifierFirst, rfl⟩] at read
  cases read
  exact ⟨rfl, rfl⟩

/-! ### References -/

/-- The characters between the opening and the closing of a reference name its target: they
hold no closing, and they are read as the path. -/
structure Names (inner : List Char) (target : KeyPath) : Prop where
  unclosed : ¬referenceClosing.toList <:+: inner
  read : KeyPath.parse (String.ofList inner) = .ok target

/-- A reference as it is written. -/
def bracketed (inner : List Char) : List Char :=
  referenceOpening.toList ++ (inner ++ referenceClosing.toList)

/-- Behind its opening no reference goes on here. -/
def Malformed (body : List Char) : Prop :=
  ∀ inner target after, Names inner target → body ≠ inner ++ referenceClosing.toList ++ after

theorem splitFirst_closing_iff {body inner after : List Char} :
    splitFirst referenceClosing.toList body = some (inner, after) ↔
      body = inner ++ referenceClosing.toList ++ after ∧ ¬referenceClosing.toList <:+: inner :=
  splitFirst_pair_eq_some_iff (by decide)

theorem exists_names_of_readReference {offset length : Nat} {body after : List Char}
    {target : KeyPath} (read : readReference offset body = .ok (target, length, after)) :
    ∃ inner, Names inner target ∧ body = inner ++ referenceClosing.toList ++ after := by
  unfold readReference at read
  split at read
  · cases read
  · rename_i inner rest found
    split at read
    · cases read
    · rename_i path parsed
      cases read
      obtain ⟨whole, unclosed⟩ := splitFirst_closing_iff.mp found
      exact ⟨inner, ⟨unclosed, parsed⟩, whole⟩

theorem readReference_of_names {inner : List Char} {target : KeyPath} (names : Names inner target)
    (offset : Nat) (after : List Char) :
    readReference offset (inner ++ referenceClosing.toList ++ after) =
      .ok (target, byteLength inner + referenceClosing.utf8ByteSize, after) := by
  unfold readReference
  rw [splitFirst_closing_iff.mpr ⟨rfl, names.unclosed⟩]
  simp only [names.read]

theorem malformed_of_readReference {offset : Nat} {body : List Char} {fault : TemplateError}
    (failed : readReference offset body = .error fault) : Malformed body := by
  rintro inner target after names rfl
  rw [readReference_of_names names] at failed
  cases failed

theorem unclosed_append_inj {first second after rest : List Char}
    (unclosedFirst : ¬referenceClosing.toList <:+: first)
    (unclosedSecond : ¬referenceClosing.toList <:+: second)
    (same : bracketed first ++ after = bracketed second ++ rest) :
    first = second ∧ after = rest := by
  simp only [bracketed, List.append_assoc] at same
  have split : splitFirst referenceClosing.toList (first ++ referenceClosing.toList ++ after) =
      some (second, rest) :=
    splitFirst_closing_iff.mpr ⟨by simpa using List.append_cancel_left same, unclosedSecond⟩
  rw [splitFirst_closing_iff.mpr ⟨rfl, unclosedFirst⟩] at split
  cases split
  exact ⟨rfl, rfl⟩

end Phrasebook.Template
