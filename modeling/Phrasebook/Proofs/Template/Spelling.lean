/-
This file says what it means for characters to spell segments, and shows that the
reader finds exactly the segments that a text spells. A token is spelled as it is
written. A text is spelled as it stands, provided that the reader keeps each of its
characters as text, and this depends on what follows: no placeholder may start
there, and if a reference opens there, it must be malformed and the policy must be
to keep it. Read from the left, one character or one token at a time, there is at
most one way to go on, so no spelling has to be given up for another.
-/

import Phrasebook.Proofs.Template.Token

namespace Phrasebook.Template

open Text Segment

/-! ### What is kept as text -/

/-- The first of the characters is kept as text: no placeholder starts with it, and if it
opens a reference, then the reference is malformed and the policy is to keep it. -/
structure Kept (policy : MalformedReferencePolicy) (characters : List Char) : Prop where
  unbraced : ∀ name, isIdentifierChars name → ¬braced name <+: characters
  unopened : ∀ body, characters = referenceOpening.toList ++ body →
    policy = .literal ∧ Malformed body

variable {policy : MalformedReferencePolicy}

theorem kept_of_ne {character : Char} (rest : List Char) (noBrace : character ≠ '{')
    (noBracket : character ≠ '[') : Kept policy (character :: rest) where
  unbraced := by
    rintro name identifier ⟨after, whole⟩
    exact noBrace (List.cons.inj whole).1.symm
  unopened := by
    intro body whole
    exact absurd (List.cons.inj whole).1 noBracket

theorem kept_of_unopened {characters : List Char}
    (closed : afterStart? referenceOpening.toList characters = none)
    (unbraced : ∀ name, isIdentifierChars name → ¬braced name <+: characters) :
    Kept policy characters where
  unbraced := unbraced
  unopened := by
    intro body whole
    rw [(afterStart?_eq_some_iff _ _ _).mpr whole] at closed
    cases closed

/-- A brace that no identifier follows is kept. -/
theorem kept_brace {rest : List Char} (absent : readPlaceholder rest = none)
    (closed : afterStart? referenceOpening.toList ('{' :: rest) = none) :
    Kept policy ('{' :: rest) := by
  refine kept_of_unopened closed ?_
  rintro name identifier ⟨after, whole⟩
  rw [braced_append] at whole
  rw [readPlaceholder_eq_some_iff.mpr ⟨identifier, (List.cons.inj whole).2.symm⟩] at absent
  cases absent

/-- A character that opens nothing is kept. -/
theorem kept_other {character : Char} {rest : List Char} (noBrace : character ≠ '{')
    (closed : afterStart? referenceOpening.toList (character :: rest) = none) :
    Kept policy (character :: rest) := by
  refine kept_of_unopened closed ?_
  rintro name identifier ⟨after, whole⟩
  exact noBrace (List.cons.inj whole).1.symm

/-- A malformed opening is kept as a whole. -/
theorem kept_of_malformed {body : List Char} (malformed : Malformed body) :
    ∀ tail, tail ≠ [] → tail <:+ referenceOpening.toList → Kept .literal (tail ++ body) := by
  intro tail filled ends
  rcases List.suffix_cons_iff.mp ends with rfl | inside
  · constructor
    · rintro name identifier ⟨after, whole⟩
      cases (List.cons.inj whole).1
    · intro other whole
      rw [← List.append_cancel_left whole]
      exact ⟨rfl, malformed⟩
  · obtain ⟨character, rest, rfl⟩ := List.exists_cons_of_ne_nil filled
    have member := inside.subset List.mem_cons_self
    refine kept_of_ne _ ?_ ?_
    · rintro rfl
      revert member
      decide
    · rintro rfl
      revert member
      decide

/-! ### Spellings -/

/-- The characters spell the segments under the policy. -/
inductive Spelled (policy : MalformedReferencePolicy) : List Segment → List Char → Prop
  | nothing : Spelled policy [] []
  | text {content : String} {rest : List Segment} {characters after : List Char}
      (filled : content ≠ "") (apart : leadsWithText rest = false)
      (whole : characters = content.toList ++ after)
      (kept : ∀ tail, tail ≠ [] → tail <:+ content.toList → Kept policy (tail ++ after))
      (onward : Spelled policy rest after) : Spelled policy (.text content :: rest) characters
  | placeholder {name : String} {rest : List Segment} {characters after : List Char}
      (identifier : isIdentifier name) (whole : characters = braced name.toList ++ after)
      (onward : Spelled policy rest after) :
      Spelled policy (.placeholder name :: rest) characters
  | reference {target : KeyPath} {inner : List Char} {rest : List Segment}
      {characters after : List Char} (names : Names inner target)
      (whole : characters = bracketed inner ++ after) (onward : Spelled policy rest after) :
      Spelled policy (.reference target :: rest) characters

variable {segments : List Segment} {characters after : List Char}

theorem Spelled.settled (spelled : Spelled policy segments characters) : Settled segments := by
  induction spelled with
  | nothing => exact True.intro
  | text filled apart _ _ _ inductionHypothesis => exact ⟨filled, apart, inductionHypothesis⟩
  | placeholder _ _ _ inductionHypothesis => exact inductionHypothesis
  | reference _ _ _ inductionHypothesis => exact inductionHypothesis

theorem spelled_nil_iff : Spelled policy segments [] ↔ segments = [] := by
  constructor
  · intro spelled
    cases spelled with
    | nothing => rfl
    | text filled _ whole =>
      exact absurd (String.toList_eq_nil_iff.mp (List.append_eq_nil_iff.mp whole.symm).1) filled
    | placeholder _ whole => cases whole
    | reference _ whole => cases whole
  · rintro rfl
    exact .nothing

theorem not_kept_of_names {inner : List Char} {target : KeyPath} (names : Names inner target) :
    ¬Kept policy (bracketed inner ++ after) := by
  intro kept
  have opens : bracketed inner ++ after =
      referenceOpening.toList ++ (inner ++ referenceClosing.toList ++ after) := by
    rw [bracketed, List.append_assoc]
  exact (kept.unopened _ opens).2 inner target after names rfl

theorem not_kept_of_identifier {name : List Char} (identifier : isIdentifierChars name) :
    ¬Kept policy (braced name ++ after) :=
  fun kept => kept.unbraced name identifier (List.prefix_append _ _)

/-- Where a text is spelled, its first character is kept. -/
theorem kept_of_text {content : String} (filled : content ≠ "")
    (whole : characters = content.toList ++ after)
    (kept : ∀ tail, tail ≠ [] → tail <:+ content.toList → Kept policy (tail ++ after)) :
    Kept policy characters := by
  rw [whole]
  exact kept _ (mt String.toList_eq_nil_iff.mp filled) List.suffix_rfl

/-- Under the strict policy nothing is spelled where a malformed reference opens. -/
theorem not_spelled_of_malformed {body : List Char} (malformed : Malformed body) :
    ¬Spelled .reject segments (referenceOpening.toList ++ body) := by
  intro spelled
  cases spelled with
  | text filled _ whole kept =>
    cases ((kept_of_text filled whole kept).unopened body rfl).1
  | placeholder _ whole => cases whole
  | reference names whole =>
    rw [bracketed, List.append_assoc] at whole
    exact malformed _ _ _ names (List.append_cancel_left whole)

/-- Where a reference can be read, nothing else is spelled. -/
theorem spelled_reference_iff {inner : List Char} {target : KeyPath}
    (names : Names inner target) :
    Spelled policy segments (bracketed inner ++ after) ↔
      ∃ rest, Spelled policy rest after ∧ .reference target :: rest = segments := by
  constructor
  · intro spelled
    cases spelled with
    | text filled _ whole kept =>
      exact absurd (kept_of_text filled whole kept) (not_kept_of_names names)
    | placeholder _ whole => cases whole
    | reference namesOther whole onward =>
      obtain ⟨rfl, rfl⟩ := unclosed_append_inj names.unclosed namesOther.unclosed whole
      have same := names.read
      rw [namesOther.read] at same
      cases same
      exact ⟨_, onward, rfl⟩
  · rintro ⟨rest, onward, rfl⟩
    exact .reference names rfl onward

/-- Where a placeholder can be read, nothing else is spelled. -/
theorem spelled_placeholder_iff {name : List Char} (identifier : isIdentifierChars name) :
    Spelled policy segments (braced name ++ after) ↔
      ∃ rest, Spelled policy rest after ∧ .placeholder (String.ofList name) :: rest = segments := by
  constructor
  · intro spelled
    cases spelled with
    | text filled _ whole kept =>
      exact absurd (kept_of_text filled whole kept) (not_kept_of_identifier identifier)
    | reference _ whole => cases whole
    | placeholder identifierOther whole onward =>
      obtain ⟨rfl, rfl⟩ := braced_append_inj identifier identifierOther whole
      rw [String.ofList_toList]
      exact ⟨_, onward, rfl⟩
  · rintro ⟨rest, onward, rfl⟩
    refine .placeholder ?_ ?_ onward
    · rw [isIdentifier, String.toList_ofList]
      exact identifier
    · rw [String.toList_ofList]

/-- Where a character is kept as text, it is placed before what the rest spells. -/
theorem spelled_cons_iff {character : Char} (kept : Kept policy (character :: after)) :
    Spelled policy segments (character :: after) ↔
      ∃ rest, Spelled policy rest after ∧
        place (.text (String.ofList [character])) rest = segments := by
  constructor
  · intro spelled
    cases spelled with
    | placeholder identifier whole =>
      rw [whole] at kept
      exact absurd kept (not_kept_of_identifier identifier)
    | reference names whole =>
      rw [whole] at kept
      exact absurd kept (not_kept_of_names names)
    | @text content rest _ behind filled apart whole keptEach onward =>
      obtain ⟨first, more, same⟩ :=
        List.exists_cons_of_ne_nil (mt String.toList_eq_nil_iff.mp filled)
      rw [same, List.cons_append] at whole
      obtain ⟨rfl, rfl⟩ := List.cons.inj whole
      have named : content = String.ofList [character] ++ String.ofList more := by
        rw [← String.ofList_append, List.singleton_append, ← same, String.ofList_toList]
      by_cases last : more = []
      · refine ⟨rest, by simpa [last] using onward, ?_⟩
        rw [named, last, String.ofList_nil, String.append_empty, place, if_neg (by simp),
          joinText_of_leadsWithText apart]
      · refine ⟨.text (String.ofList more) :: rest, .text ?_ apart ?_ ?_ onward, ?_⟩
        · simpa using last
        · rw [String.toList_ofList]
        · intro tail filledTail ends
          rw [String.toList_ofList] at ends
          exact keptEach tail filledTail (same ▸ ends.trans (List.suffix_cons _ _))
        · rw [place, if_neg (by simp), joinText, named]
  · rintro ⟨rest, onward, rfl⟩
    have alone (apart : leadsWithText rest = false) :
        Spelled policy (place (.text (String.ofList [character])) rest) (character :: after) := by
      rw [place, if_neg (by simp), joinText_of_leadsWithText apart]
      refine .text (by simp) apart (by simp) ?_ onward
      intro tail filled ends
      rw [String.toList_ofList] at ends
      rw [(List.suffix_cons_iff.mp ends).resolve_right fun nothing =>
        filled (List.suffix_nil.mp nothing)]
      exact kept
    cases onward with
    | nothing => exact alone rfl
    | placeholder _ _ _ => exact alone rfl
    | reference _ _ _ => exact alone rfl
    | text filled apart whole keptEach later =>
      rw [place, if_neg (by simp), joinText]
      refine .text (by simp) apart (by simp [whole]) ?_ later
      intro tail filledTail ends
      rw [String.toList_append, String.toList_ofList, List.singleton_append] at ends
      rcases List.suffix_cons_iff.mp ends with rfl | inside
      · rw [List.cons_append, ← whole]
        exact kept
      · exact keptEach tail filledTail inside

/-- Where characters are kept as text, they are placed before what the rest spells. -/
theorem spelled_append_iff {block : List Char}
    (kept : ∀ tail, tail ≠ [] → tail <:+ block → Kept policy (tail ++ after)) :
    Spelled policy segments (block ++ after) ↔
      ∃ rest, Spelled policy rest after ∧ place (.text (String.ofList block)) rest = segments := by
  induction block generalizing segments with
  | nil => simp [place]
  | cons character more inductionHypothesis =>
    have keptFirst := kept _ (List.cons_ne_nil _ _) List.suffix_rfl
    have keptMore : ∀ tail, tail ≠ [] → tail <:+ more → Kept policy (tail ++ after) :=
      fun tail filled ends => kept tail filled (ends.trans (List.suffix_cons _ _))
    have placed (rest : List Segment) : place (.text (String.ofList (character :: more))) rest =
        place (.text (String.ofList [character])) (place (.text (String.ofList more)) rest) := by
      rw [← place_text_append, ← String.ofList_append, List.singleton_append]
    refine (spelled_cons_iff keptFirst).trans ⟨?_, ?_⟩
    · rintro ⟨middle, onward, rfl⟩
      obtain ⟨rest, spelled, rfl⟩ := (inductionHypothesis keptMore).mp onward
      exact ⟨rest, spelled, placed rest⟩
    · rintro ⟨rest, spelled, rfl⟩
      exact ⟨_, (inductionHypothesis keptMore).mpr ⟨rest, spelled, rfl⟩, (placed rest).symm⟩

/-! ### Reading -/

/-- What is read in the end: the segments found, the pending text, and what is still to come. -/
def assemble (pending : List Char) (found later : List Segment) : List Segment :=
  found.reverse ++ place (.text (String.ofList pending.reverse)) later

theorem reverse_flush_append (pending : List Char) (found : List Segment) {rest : List Segment}
    (apart : leadsWithText rest = false) :
    (flush pending found).reverse ++ rest = assemble pending found rest := by
  unfold flush assemble
  split
  · rename_i empty
    simp [List.isEmpty_iff.mp empty, place]
  · rename_i filled
    rw [place, if_neg, joinText_of_leadsWithText apart]
    · simp
    · simpa using filled

theorem assemble_nil (found later : List Segment) :
    assemble [] found later = found.reverse ++ later := by
  simp [assemble, place]

/-- Before a token the pending text becomes a segment of its own. -/
theorem assemble_token (token : Segment) (apart : ∀ rest, leadsWithText (token :: rest) = false)
    (pending : List Char) (found rest : List Segment) :
    assemble [] (token :: flush pending found) rest = assemble pending found (token :: rest) := by
  rw [← reverse_flush_append pending found (apart rest), assemble_nil, List.reverse_cons,
    List.append_assoc, List.singleton_append]

/-- Behind characters that are kept the pending text is longer by them. -/
theorem assemble_block (pending block : List Char) (found rest : List Segment) :
    assemble (block.reverse ++ pending) found rest =
      assemble pending found (place (.text (String.ofList block)) rest) := by
  rw [assemble, assemble, ← place_text_append, ← String.ofList_append, List.reverse_append,
    List.reverse_reverse]

/-- The reader finds the segments that the characters spell, behind what it found before. -/
theorem scan_eq_ok_iff {offset : Nat} {pending characters : List Char} {found : List Segment} :
    scan policy offset pending found characters = .ok segments ↔
      ∃ later, Spelled policy later characters ∧ segments = assemble pending found later := by
  fun_induction scan policy offset pending found characters with
  | case1 offset pending found =>
    have whole : (flush pending found).reverse ++ [] = assemble pending found [] :=
      reverse_flush_append pending found rfl
    simp only [spelled_nil_iff, exists_eq_left, ← whole, List.append_nil, Except.ok.injEq]
    exact eq_comm
  | case2 offset pending found first rest body opens target length after read inductionHypothesis =>
    obtain ⟨inner, names, rfl⟩ := exists_names_of_readReference read
    have whole : first :: rest = bracketed inner ++ after := by
      simpa [bracketed] using (afterStart?_eq_some_iff _ _ _).mp opens
    simp only [inductionHypothesis, whole, spelled_reference_iff names, exists_exists_and_eq_and,
      assemble_token (.reference target) fun _ => rfl]
  | case3 offset pending found first rest body opens fault failed reject =>
    subst reject
    rw [(afterStart?_eq_some_iff _ _ _).mp opens]
    constructor
    · intro read
      cases read
    · rintro ⟨later, spelled, -⟩
      exact absurd spelled (not_spelled_of_malformed (malformed_of_readReference failed))
  | case4 offset pending found first rest body opens fault failed literal inductionHypothesis =>
    subst literal
    have kept := kept_of_malformed (malformed_of_readReference failed)
    rw [inductionHypothesis, (afterStart?_eq_some_iff _ _ _).mp opens]
    simp only [spelled_append_iff kept, exists_exists_and_eq_and, assemble_block]
  | case5 offset pending found rest name after read closed inductionHypothesis =>
    obtain ⟨identifier, rfl⟩ := readPlaceholder_eq_some_iff.mp read
    simp only [inductionHypothesis, ← braced_append, spelled_placeholder_iff identifier,
      exists_exists_and_eq_and, assemble_token (.placeholder (String.ofList name)) fun _ => rfl]
  | case6 offset pending found rest absent closed inductionHypothesis =>
    have kept : Kept policy ('{' :: rest) := kept_brace absent closed
    rw [inductionHypothesis]
    simp only [spelled_cons_iff kept, exists_exists_and_eq_and, ← assemble_block]
    rfl
  | case7 offset pending found first rest closed noBrace inductionHypothesis =>
    have kept : Kept policy (first :: rest) := kept_other noBrace closed
    rw [inductionHypothesis]
    simp only [spelled_cons_iff kept, exists_exists_and_eq_and, ← assemble_block]
    rfl

/-- Characters spell one list of segments at most. -/
theorem Spelled.unique {other : List Segment} (spelled : Spelled policy segments characters)
    (spelledOther : Spelled policy other characters) : segments = other := by
  have read {spelt : List Segment} (spells : Spelled policy spelt characters) :
      scan policy 0 [] [] characters = .ok spelt :=
    scan_eq_ok_iff.mpr ⟨spelt, spells, (assemble_nil [] spelt).symm⟩
  have same := read spelled
  rw [read spelledOther] at same
  cases same
  rfl

theorem segments_ofSegments (settled : Settled segments) :
    (ofSegments segments).segments = segments :=
  settle_of_settled settled

/-- A text is read as a template exactly when it spells the template's segments. -/
theorem parse_eq_ok_iff {raw : String} {template : Template} :
    parse raw policy = .ok template ↔ Spelled policy template.segments raw.toList := by
  have read {segments : List Segment} : scan policy 0 [] [] raw.toList = .ok segments ↔
      Spelled policy segments raw.toList := by
    simp [scan_eq_ok_iff, assemble_nil]
  unfold parse
  constructor
  · intro parsed
    split at parsed
    · cases parsed
    · rename_i segments scanned
      have spelled := read.mp scanned
      cases parsed
      rw [segments_ofSegments spelled.settled]
      exact spelled
  · intro spelled
    simp only [read.mpr spelled, ofSegments, settle_of_settled spelled.settled]

end Phrasebook.Template
