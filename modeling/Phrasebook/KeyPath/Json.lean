/-
This file reads and writes key paths as JSON. A path is written as the string of
its spelling with dots, and read from a string in either spelling.
-/

import Phrasebook.Json.Decoding
import Phrasebook.Json.Quoted
import Phrasebook.Json.Structure

namespace Phrasebook.KeyPath

open Json

/-- The path as JSON. -/
def toJson (path : KeyPath) : String :=
  quote path.dotted

/-- Reads a path. What stands in the string is judged before what follows it. -/
def ofJson (text : String) : Except DecodeError KeyPath :=
  match decodeText text.toList with
  | .error error => .error error
  | .ok (content, ⟨rest, _⟩) =>
    match KeyPath.parse content with
    | .error fault => .error (.badKeyPath fault)
    | .ok path =>
      match readEnd rest with
      | .error fault => .error (.notJson fault)
      | .ok () => .ok path

end Phrasebook.KeyPath
