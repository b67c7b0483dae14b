/-
This file defines resolutions, what is left of an entry when all references have
been followed: fragments of text and placeholders. Rendering puts the caller's
values in the place of the placeholders. The values are inserted as they are, so
a brace in a value is text and nothing in it is ever looked up.
-/

import Phrasebook.Resolve.Error

namespace Phrasebook

/-! ### Fragments and values -/

/-- A piece of a resolved string. -/
inductive Fragment
  /-- Display text. -/
  | text (content : String)
  /-- A value the caller supplies under this name. -/
  | placeholder (name : String)
deriving DecidableEq, Repr

/-- The values a caller supplies, by name. -/
abbrev Values : Type := String → Option String

namespace Values

/-- The values in a list of pairs. Of two pairs with one name the first counts. -/
def ofPairs (pairs : List (String × String)) : Values :=
  fun name => pairs.lookup name

/-- No values. -/
def none : Values :=
  fun _ => Option.none

end Values

/-- The fragment with the value of its placeholder, or with the placeholder as it is written
if there is no value. -/
def Fragment.fill (values : Values) : Fragment → String
  | .text content => content
  | .placeholder name =>
    match values name with
    | some value => value
    | none => "\x7b" ++ name ++ "\x7d"

/-! ### Resolutions -/

/-- A string without references. -/
structure Resolution where
  /-- The key that was asked for. -/
  key : KeyPath
  /-- The key whose entry gave the template, which differs from `key` after redirects. -/
  origin : KeyPath
  fragments : List Fragment
deriving DecidableEq

namespace Resolution

/-- The names of the placeholders, each once, in the order of their first appearance. -/
def placeholders (resolution : Resolution) : List String :=
  (resolution.fragments.filterMap fun
    | .placeholder name => some name
    | .text _ => none).eraseDups

/-- The text with the values that there are; other placeholders stay as they are written. -/
def renderLenient (resolution : Resolution) (values : Values) : String :=
  String.join (resolution.fragments.map (Fragment.fill values))

/-- The text with all placeholders as they are written. -/
def templateText (resolution : Resolution) : String :=
  resolution.renderLenient Values.none

/-- The text with all values. The first placeholder without one is an error. -/
def render (resolution : Resolution) (values : Values) : Except ResolveError String :=
  match resolution.placeholders.find? fun name => (values name).isNone with
  | some name => .error (.missingPlaceholder resolution.key name)
  | none => .ok (resolution.renderLenient values)

end Resolution

end Phrasebook
