/-
This file defines file paths. A path is a text, and it is kept as it is written;
nothing about it is normalized. It is read as components between slashes, where
doubled slashes and single dots inside of the path say nothing. A relative path
is appended to a directory, and the parent of a path is what stands before its
last component.
-/

namespace Phrasebook

/-- A path to a file or a directory, as it is written. -/
structure FilePath where
  text : String
deriving DecidableEq, Repr

namespace FilePath

/-! ### Components -/

/-- A component of a path. -/
inductive Component
  /-- The slash that an absolute path starts with. -/
  | root
  /-- The dot that a relative path may start with. -/
  | current
  /-- Two dots. -/
  | parent
  | name (text : String)
deriving DecidableEq, Repr

/-- A component as it is written. -/
def Component.text : Component → String
  | .root => "/"
  | .current => "."
  | .parent => ".."
  | .name text => text

/-- The first component, if it is the root or a dot, and the characters behind it. -/
def splitLead : List Char → Option Component × List Char
  | '/' :: rest => (some .root, rest)
  | '.' :: '/' :: rest => (some .current, '/' :: rest)
  | ['.'] => (some .current, [])
  | characters => (none, characters)

/-- Whether what stands between two slashes is no component. -/
def isHollow (piece : List Char) : Bool :=
  piece == [] || piece == ['.']

/-- The component that a piece is. -/
def componentOf (piece : List Char) : Component :=
  if piece = ['.', '.'] then .parent else .name (String.ofList piece)

/-- The components of a path. -/
def components (path : FilePath) : List Component :=
  let (lead, rest) := splitLead path.text.toList
  lead.toList ++ ((rest.splitOn '/').filter fun piece => !isHollow piece).map componentOf

/-- Whether the path starts at the root. -/
def isAbsolute (path : FilePath) : Bool :=
  path.text.toList.head? == some '/'

/-! ### Joining and the parent -/

/-- The path inside of a directory. An absolute path stays what it is. -/
def join (directory path : FilePath) : FilePath :=
  if path.isAbsolute then path
  else
    let last := directory.text.toList.getLast?
    if last = none ∨ last = some '/' then ⟨directory.text ++ path.text⟩
    else ⟨directory.text ++ "/" ++ path.text⟩

/-- The pieces, the last one first, without the last component and what is hollow around it. -/
def withoutLast (reversed : List (List Char)) : List (List Char) :=
  ((reversed.dropWhile isHollow).drop 1).dropWhile isHollow

/-- What stands before the last component. A path without components and the root have no
parent. -/
def parent? (path : FilePath) : Option FilePath :=
  let (lead, rest) := splitLead path.text.toList
  let reversed := (rest.splitOn '/').reverse
  if reversed.all isHollow then
    match lead with
    | some .current => some ⟨""⟩
    | _ => none
  else
    let leading := (lead.map Component.text).getD ""
    some ⟨leading ++ String.ofList (['/'].intercalate (withoutLast reversed).reverse)⟩

example : parent? ⟨"conf/./x/"⟩ = some ⟨"conf"⟩ := by decide +kernel

end FilePath

end Phrasebook
