/-
This file measures texts in bytes of UTF-8, the unit of file sizes, of the limits
on documents and output, and of the places that error messages name.
-/

namespace Phrasebook.Text

/-- The number of bytes these characters take. -/
def byteLength (characters : List Char) : Nat :=
  characters.foldl (fun length character => length + character.utf8Size) 0

theorem foldl_utf8Size (characters : List Char) (start : Nat) :
    characters.foldl (fun length character => length + character.utf8Size) start =
      start + byteLength characters := by
  induction characters generalizing start with
  | nil => rfl
  | cons character rest inductionHypothesis =>
    unfold byteLength
    rw [List.foldl_cons, List.foldl_cons, inductionHypothesis, inductionHypothesis,
      Nat.zero_add, Nat.add_assoc]

theorem byteLength_nil : byteLength [] = 0 := rfl

theorem byteLength_cons (character : Char) (rest : List Char) :
    byteLength (character :: rest) = character.utf8Size + byteLength rest := by
  unfold byteLength
  rw [List.foldl_cons, foldl_utf8Size, Nat.zero_add]
  rfl

theorem byteLength_append (first second : List Char) :
    byteLength (first ++ second) = byteLength first + byteLength second := by
  induction first with
  | nil => simp [byteLength_nil]
  | cons character rest inductionHypothesis =>
    rw [List.cons_append, byteLength_cons, byteLength_cons, inductionHypothesis, Nat.add_assoc]

/-- The characters of a text take as many bytes as the text. -/
theorem byteLength_eq_utf8ByteSize (characters : List Char) :
    byteLength characters = (String.ofList characters).utf8ByteSize := by
  induction characters with
  | nil => rfl
  | cons character rest inductionHypothesis =>
    rw [byteLength_cons, inductionHypothesis, ← List.singleton_append, String.ofList_append,
      String.utf8ByteSize_append, ← String.singleton_eq_ofList, String.utf8ByteSize_singleton]

end Phrasebook.Text
