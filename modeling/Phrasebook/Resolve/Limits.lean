/-
This file defines the limits of a resolution. References may lead in circles and
may fan out, so a resolution is bounded three times: in the depth to which it
follows references, in the entries it visits, and in the bytes it writes.
-/

namespace Phrasebook

/-- The bounds of a single resolution. -/
structure Limits where
  /-- How many references may be followed inside one another. -/
  maxRedirectDepth : Nat := 16
  /-- How many entries may be visited, each as often as it is reached. -/
  maxExpansions : Nat := 1024
  /-- How many bytes of text and placeholder names may be written. -/
  maxOutputBytes : Nat := 64 * 1024
deriving DecidableEq, Repr

/-- The two budgets that a resolution uses up. -/
inductive Budget
  | visits
  | output
deriving DecidableEq, Repr

/-- What a budget counts, as messages name it. -/
def Budget.unitName : Budget → String
  | .visits => "entry visits"
  | .output => "output bytes"

end Phrasebook
