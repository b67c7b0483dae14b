/-
This file reads templates. The reader goes through a text from left to right. At
`[%key:` it looks for the next `%]`, and what stands between must be a key path;
at an opening brace it looks for an identifier and a closing brace; anything else
is text. A reference that is not closed or that names no path is malformed, and
the policy says whether that is an error or whether the opening is text like any
other. A brace without an identifier is always text. Errors name the place of the
opening in bytes, as files and editors count it.
-/

import Phrasebook.Template.Basic
import Phrasebook.Text.Bytes

namespace Phrasebook

/-! ### Policy and errors -/

/-- What to do with a malformed reference. -/
inductive MalformedReferencePolicy
  /-- Refuse the template. -/
  | reject
  /-- Keep the opening as text and read on behind it. -/
  | literal
deriving DecidableEq, Repr

/-- The name of a policy in documents. -/
def MalformedReferencePolicy.name : MalformedReferencePolicy → String
  | .reject => "reject"
  | .literal => "literal"

/-- The policy with this name. -/
def MalformedReferencePolicy.ofName? : String → Option MalformedReferencePolicy
  | "reject" => some .reject
  | "literal" => some .literal
  | _ => none

/-- Why a text is not a template. -/
inductive TemplateError
  /-- The reference that opens at this byte is not closed. -/
  | unterminatedReference (offset : Nat)
  /-- What stands in a reference is not a key path. -/
  | invalidReference (text : String) (fault : KeyPathError)
deriving DecidableEq, Repr

/-- The sentence that tells a person about the fault. -/
def TemplateError.message : TemplateError → String
  | .unterminatedReference offset =>
    "unterminated reference starting at byte " ++ toString offset
  | .invalidReference text fault => "invalid reference `" ++ text ++ "`: " ++ fault.message

/-! ### Identifiers -/

/-- A letter of the basic Latin alphabet or an underscore. -/
def isIdentifierStart (character : Char) : Bool :=
  character == '_' || character.isAlpha

/-- A character that may follow the first one of an identifier. -/
def isIdentifierRest (character : Char) : Bool :=
  character == '_' || character.isAlphanum

/-- Whether the characters spell an identifier: a letter or an underscore, then letters,
digits and underscores. -/
def isIdentifierChars : List Char → Bool
  | [] => false
  | first :: rest => isIdentifierStart first && rest.all isIdentifierRest

/-- Whether the text can name a placeholder. -/
def isIdentifier (name : String) : Bool :=
  isIdentifierChars name.toList

namespace Template

/-! ### The two tokens -/

/-- Reads the rest of a reference whose opening stands at `offset`: its target, its length
in bytes without the opening, and what follows its closing. -/
def readReference (offset : Nat) (body : List Char) :
    Except TemplateError (KeyPath × Nat × List Char) :=
  match Text.splitFirst referenceClosing.toList body with
  | none => .error (.unterminatedReference offset)
  | some (inner, after) =>
    match KeyPath.parse (String.ofList inner) with
    | .error fault => .error (.invalidReference (String.ofList inner) fault)
    | .ok target => .ok (target, Text.byteLength inner + referenceClosing.utf8ByteSize, after)

/-- Reads a placeholder behind its opening brace: its name and what follows its closing
brace. An identifier ends where its characters end, so nothing else can stand before the
closing brace. -/
def readPlaceholder (body : List Char) : Option (List Char × List Char) :=
  match body.dropWhile isIdentifierRest with
  | '}' :: after =>
    if isIdentifierChars (body.takeWhile isIdentifierRest) then
      some (body.takeWhile isIdentifierRest, after)
    else none
  | _ => none

theorem length_of_readReference {offset : Nat} {body after : List Char} {target : KeyPath}
    {length : Nat} (read : readReference offset body = .ok (target, length, after)) :
    after.length ≤ body.length := by
  unfold readReference at read
  split at read
  · cases read
  · rename_i inner rest found
    split at read
    · cases read
    · simp only [Except.ok.injEq, Prod.mk.injEq] at read
      rw [Text.append_of_splitFirst found, ← read.2.2]
      simp only [List.length_append]
      omega

theorem length_of_readPlaceholder {body name after : List Char}
    (read : readPlaceholder body = some (name, after)) : after.length ≤ body.length := by
  have whole := List.takeWhile_append_dropWhile (p := isIdentifierRest) (l := body)
  unfold readPlaceholder at read
  split at read
  · rename_i rest same
    split at read
    · simp only [Option.some.injEq, Prod.mk.injEq] at read
      have lengths := congrArg List.length whole
      rw [same, read.2] at lengths
      simp only [List.length_append, List.length_cons] at lengths
      omega
    · cases read
  · cases read

/-! ### The reader -/

/-- The segments found so far, in reverse, behind the text that was pending, in reverse. -/
def flush (pending : List Char) (found : List Segment) : List Segment :=
  if pending.isEmpty then found else .text (String.ofList pending.reverse) :: found

theorem length_of_opening {character : Char} {rest body : List Char}
    (opens : Text.afterStart? referenceOpening.toList (character :: rest) = some body) :
    body.length + 5 = rest.length := by
  have lengths := congrArg List.length ((Text.afterStart?_eq_some_iff _ _ _).mp opens)
  simp [referenceOpening] at lengths
  omega

set_option linter.unusedVariables false in
/-- Reads on at `offset`, with text pending and segments found, both in reverse. -/
def scan (policy : MalformedReferencePolicy) (offset : Nat) (pending : List Char)
    (found : List Segment) (characters : List Char) : Except TemplateError (List Segment) :=
  match characters with
  | [] => .ok (flush pending found).reverse
  | character :: rest =>
    match opens : Text.afterStart? referenceOpening.toList (character :: rest) with
    | some body =>
      match read : readReference offset body with
      | .ok (target, length, after) =>
        scan policy (offset + referenceOpening.utf8ByteSize + length) []
          (.reference target :: flush pending found) after
      | .error fault =>
        match policy with
        | .reject => .error fault
        | .literal =>
          scan policy (offset + referenceOpening.utf8ByteSize)
            (referenceOpening.toList.reverse ++ pending) found body
    | none =>
      if character = '{' then
        match read : readPlaceholder rest with
        | some (name, after) =>
          scan policy (offset + Text.byteLength name + 2) []
            (.placeholder (String.ofList name) :: flush pending found) after
        | none => scan policy (offset + 1) (character :: pending) found rest
      else scan policy (offset + character.utf8Size) (character :: pending) found rest
termination_by characters.length
decreasing_by
  · have shorter := length_of_opening opens
    have bounded := length_of_readReference read
    simp_wf
    omega
  · have shorter := length_of_opening opens
    simp_wf
    omega
  · have bounded := length_of_readPlaceholder read
    simp_wf
    omega
  · simp_wf
  · simp_wf

/-- Reads a template. -/
def parse (raw : String) (policy : MalformedReferencePolicy) : Except TemplateError Template :=
  match scan policy 0 [] [] raw.toList with
  | .error fault => .error fault
  | .ok segments => .ok (ofSegments segments)

end Template

/-- Reads what a table holds at a key. -/
def LeafEntry.parse (raw : String) (policy : MalformedReferencePolicy) :
    Except TemplateError LeafEntry :=
  match Template.parse raw policy with
  | .error fault => .error fault
  | .ok template => .ok (.ofTemplate template)

end Phrasebook
