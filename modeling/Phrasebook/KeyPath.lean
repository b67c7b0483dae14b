/-
This file defines key paths, the addresses of strings in a table. A path is a
nonempty list of segments, and a segment is a text that is not empty, that is
already trimmed, and that holds no separator, so a path written out can be read
back. Two spellings name the same path: segments joined by dots, which people
use and the program shows, and segments joined by doubled colons, which
references inside strings use. A text that holds a doubled colon is read in the
second spelling, and any other in the first.
-/

import Phrasebook.Text.Blank
import Phrasebook.Text.Search

namespace Phrasebook

/-! ### What can be wrong with a path -/

/-- Why a text or a list of segments is not a key path. -/
inductive KeyPathError
  /-- There is no segment at all. -/
  | empty
  /-- A segment is the empty text. -/
  | emptySegment
  /-- A segment holds a dot or a doubled colon. -/
  | separatorInSegment (segment : String)
  /-- A segment starts or ends with a blank character. -/
  | paddedSegment (segment : String)
deriving DecidableEq, Repr

/-- The sentence that tells a person about the fault. -/
def KeyPathError.message : KeyPathError → String
  | .empty => "key path is empty"
  | .emptySegment => "key path contains an empty segment"
  | .separatorInSegment segment => "key segment `" ++ segment ++ "` contains a path separator"
  | .paddedSegment segment =>
    "key segment `" ++ segment ++ "` has leading or trailing whitespace"

/-! ### Segments -/

/-- The separator of references. -/
def referenceSeparator : List Char := [':', ':']

/-- Whether the characters hold a dot or a doubled colon. -/
def holdsSeparator (characters : List Char) : Bool :=
  characters.contains '.' || Text.occurs referenceSeparator characters

/-- Accepts a segment, or names the first of its faults: being empty, being padded, holding
a separator. -/
def checkSegment (segment : String) : Except KeyPathError Unit :=
  if segment = "" then .error .emptySegment
  else if Text.trim segment ≠ segment then .error (.paddedSegment segment)
  else if holdsSeparator segment.toList then .error (.separatorInSegment segment)
  else .ok ()

/-- Accepts a list of segments, or names the fault of the first bad one. -/
def checkSegments : List String → Except KeyPathError Unit
  | [] => .ok ()
  | segment :: rest =>
    match checkSegment segment with
    | .error fault => .error fault
    | .ok () => checkSegments rest

theorem checkSegments_eq_ok_iff (segments : List String) :
    checkSegments segments = .ok () ↔ ∀ segment ∈ segments, checkSegment segment = .ok () := by
  induction segments with
  | nil => simp [checkSegments]
  | cons segment rest inductionHypothesis =>
    cases checked : checkSegment segment with
    | error fault => simp [checkSegments, checked]
    | ok done => simp [checkSegments, checked, inductionHypothesis]

/-! ### Paths -/

/-- The address of a string: one or more well-formed segments, outermost first. -/
structure KeyPath where
  segments : List String
  nonempty : segments ≠ []
  wellFormed : ∀ segment ∈ segments, checkSegment segment = .ok ()
deriving DecidableEq

namespace KeyPath

/-- The path with these segments. -/
def ofSegments (segments : List String) : Except KeyPathError KeyPath :=
  if absent : segments = [] then .error .empty
  else
    match checked : checkSegments segments with
    | .error fault => .error fault
    | .ok () => .ok ⟨segments, absent, (checkSegments_eq_ok_iff segments).mp checked⟩

/-- The pieces of a trimmed text: cut at doubled colons if it has one, and at dots if not. -/
def pieces (trimmed : List Char) : List (List Char) :=
  if Text.occurs referenceSeparator trimmed then Text.splitDoubled ':' trimmed
  else trimmed.splitOn '.'

/-- Reads a path in either spelling. Blanks around the whole text are ignored. -/
def parse (text : String) : Except KeyPathError KeyPath :=
  let trimmed := Text.trimChars text.toList
  if trimmed.isEmpty then .error .empty
  else ofSegments ((pieces trimmed).map String.ofList)

/-- The path one segment below. Only the new segment has to be checked. -/
def child (path : KeyPath) (segment : String) : Except KeyPathError KeyPath :=
  match checked : checkSegment segment with
  | .error fault => .error fault
  | .ok () => .ok {
      segments := path.segments ++ [segment]
      nonempty := by simp
      wellFormed := by
        intro other member
        rcases List.mem_append.mp member with inside | last
        · exact path.wellFormed other inside
        · rw [List.mem_singleton.mp last]
          exact checked }

/-- The spelling with dots, in which paths are shown. -/
def dotted (path : KeyPath) : String :=
  ".".intercalate path.segments

/-- The spelling with doubled colons, in which references are written. -/
def referenceForm (path : KeyPath) : String :=
  "::".intercalate path.segments

/-- The last segment. -/
def leafName (path : KeyPath) : String :=
  path.segments.getLast path.nonempty

/-! ### Order -/

/-- Paths are compared segment by segment, and segments by code points. -/
instance : Ord KeyPath where
  compare first second := compare first.segments second.segments

/-- The paths in increasing order, equal ones kept. -/
def sort (paths : List KeyPath) : List KeyPath :=
  paths.mergeSort fun first second => (compare first second).isLE

end KeyPath

end Phrasebook
