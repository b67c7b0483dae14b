/-
This file lists what can go wrong between a key and its display text. Two of the
errors are the caller's to recover from, a key that no table has and a value that
was not supplied; the other three are faults in the tables themselves.
-/

import Phrasebook.KeyPath
import Phrasebook.Resolve.Limits

namespace Phrasebook

/-- Why a key gives no display text. -/
inductive ResolveError
  /-- No table has an entry at the key, which is given as the caller wrote it. -/
  | keyNotFound (key : String)
  /-- The entry at a key refers to a target at which no table has an entry. -/
  | danglingReference (key target : KeyPath)
  /-- The references from a key come back to a key on their way, or go too deep. The chain
  lists the keys on the way and ends with the one that was refused. -/
  | redirectCycle (key : KeyPath) (chain : List KeyPath)
  /-- The resolution of a key used up a budget. -/
  | expansionLimit (key : KeyPath) (limit : Nat) (budget : Budget)
  /-- No value was supplied for a placeholder. -/
  | missingPlaceholder (key : KeyPath) (placeholder : String)
deriving DecidableEq

namespace ResolveError

/-- The sentence that tells a person about the error. -/
def message : ResolveError → String
  | .keyNotFound key => "key not found: `" ++ key ++ "`"
  | .danglingReference key target =>
    "`" ++ key.dotted ++ "` references missing key `" ++ target.dotted ++ "`"
  | .redirectCycle key chain =>
    "redirect cycle while resolving `" ++ key.dotted ++ "`: " ++
      " -> ".intercalate (chain.map KeyPath.dotted)
  | .expansionLimit key limit budget =>
    "expanding `" ++ key.dotted ++ "` exceeds the limit of " ++ toString limit ++ " " ++
      budget.unitName
  | .missingPlaceholder key placeholder =>
    "missing placeholder `\x7b" ++ placeholder ++ "\x7d` for `" ++ key.dotted ++ "`"

/-- The name of the kind of error in audit records. -/
def label : ResolveError → String
  | .keyNotFound _ => "key_not_found"
  | .danglingReference _ _ => "dangling_reference"
  | .redirectCycle _ _ => "redirect_cycle"
  | .expansionLimit _ _ _ => "expansion_limit"
  | .missingPlaceholder _ _ => "missing_placeholder"

/-- Whether a caller can recover by showing something else. -/
def isRecoverable : ResolveError → Bool
  | .keyNotFound _ => true
  | .missingPlaceholder _ _ => true
  | _ => false

end ResolveError

end Phrasebook
