/-
This file finds one text inside another and cuts a text at a separator. A search
takes the leftmost occurrence, and a cut goes on behind the occurrence it found,
so occurrences never overlap. The loops carry what they have passed in reverse,
so that a long text needs no deep stack.
-/

namespace Phrasebook.Text

/-! ### The start of a text -/

/-- What follows `pattern`, when the characters start with it. -/
def afterStart? : (pattern characters : List Char) → Option (List Char)
  | [], characters => some characters
  | _ :: _, [] => none
  | expected :: pattern, character :: rest =>
    if expected = character then afterStart? pattern rest else none

theorem afterStart?_eq_some_iff (pattern characters after : List Char) :
    afterStart? pattern characters = some after ↔ characters = pattern ++ after := by
  induction pattern generalizing characters with
  | nil => simp [afterStart?]
  | cons expected pattern inductionHypothesis =>
    cases characters with
    | nil => simp [afterStart?]
    | cons character rest =>
      by_cases same : expected = character
      · simp [afterStart?, same, inductionHypothesis]
      · simp [afterStart?, same, Ne.symm same]

/-! ### The first occurrence -/

/-- Looks for `pattern` from here on, with the characters already passed in reverse. -/
def splitFirstFrom (pattern passed : List Char) : List Char → Option (List Char × List Char)
  | [] => (afterStart? pattern []).map fun after => (passed.reverse, after)
  | character :: rest =>
    match afterStart? pattern (character :: rest) with
    | some after => some (passed.reverse, after)
    | none => splitFirstFrom pattern (character :: passed) rest

/-- What stands before and after the leftmost occurrence of `pattern`. -/
def splitFirst (pattern characters : List Char) : Option (List Char × List Char) :=
  splitFirstFrom pattern [] characters

/-- Whether `pattern` occurs. -/
def occurs (pattern characters : List Char) : Bool :=
  (splitFirst pattern characters).isSome

theorem append_of_splitFirstFrom {pattern passed characters before after : List Char}
    (found : splitFirstFrom pattern passed characters = some (before, after)) :
    passed.reverse ++ characters = before ++ pattern ++ after := by
  induction characters generalizing passed with
  | nil =>
    simp only [splitFirstFrom, Option.map_eq_some_iff, Prod.mk.injEq] at found
    obtain ⟨rest, starts, same, rfl⟩ := found
    rw [(afterStart?_eq_some_iff _ _ _).mp starts, ← same, List.append_assoc]
  | cons character rest inductionHypothesis =>
    unfold splitFirstFrom at found
    split at found
    · rename_i tail starts
      simp only [Option.some.injEq, Prod.mk.injEq] at found
      rw [(afterStart?_eq_some_iff _ _ _).mp starts, ← found.1, ← found.2, List.append_assoc]
    · rw [← inductionHypothesis found]
      simp

/-- A split loses nothing. -/
theorem append_of_splitFirst {pattern characters before after : List Char}
    (found : splitFirst pattern characters = some (before, after)) :
    characters = before ++ pattern ++ after := by
  simpa using append_of_splitFirstFrom found

/-! ### Cutting at a doubled character -/

/-- Cuts at each doubled `mark`, with the current piece and the finished pieces in reverse. -/
def splitDoubledFrom (mark : Char) (piece : List Char) (pieces : List (List Char)) :
    List Char → List (List Char)
  | [] => (piece.reverse :: pieces).reverse
  | [character] => ((character :: piece).reverse :: pieces).reverse
  | first :: second :: rest =>
    if first = mark ∧ second = mark then
      splitDoubledFrom mark [] (piece.reverse :: pieces) rest
    else
      splitDoubledFrom mark (first :: piece) pieces (second :: rest)

/-- The pieces between the doubled occurrences of `mark`, cut from the left: `:::` is an
empty piece and a single `:`. -/
def splitDoubled (mark : Char) (characters : List Char) : List (List Char) :=
  splitDoubledFrom mark [] [] characters

example : splitDoubled ':' "a:::b".toList = ["a".toList, ":b".toList] := by decide

end Phrasebook.Text
