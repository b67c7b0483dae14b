/-
This file defines the state of a resolution under way. A walk knows the keys whose
entries are open, how much of the two budgets is used, and what has been written.
Opening an entry uses a visit, and writing uses output; text that follows text is
joined to it, so what is written never has two texts side by side.
-/

import Phrasebook.Resolve.Resolution

namespace Phrasebook

/-- A resolution under way. -/
structure Walk where
  /-- The key that was asked for. -/
  requested : KeyPath
  /-- The keys whose entries are open, the innermost first. -/
  stack : List KeyPath := []
  /-- The number of entries visited. -/
  visits : Nat := 0
  /-- The number of bytes written. -/
  outputBytes : Nat := 0
  /-- The fragments written, the newest first. -/
  written : List Fragment := []

namespace Walk

/-- The greatest number of bytes that is counted; beyond it the count stands still. -/
def maxCount : Nat := Nat.pow 2 64 - 1

/-- The error that `key` cannot be opened because it is open already or lies too deep. -/
def cycle (walk : Walk) (key : KeyPath) : ResolveError :=
  .redirectCycle walk.requested (walk.stack.reverse ++ [key])

/-- The error that there is no entry at `key`. -/
def missing (walk : Walk) (key : KeyPath) : ResolveError :=
  match walk.stack with
  | [] => .keyNotFound key.dotted
  | holder :: _ => .danglingReference holder key

/-- Opens the entry at `key`. -/
def enter (walk : Walk) (limits : Limits) (key : KeyPath) : Except ResolveError Walk :=
  if limits.maxExpansions < walk.visits + 1 then
    .error (.expansionLimit walk.requested limits.maxExpansions .visits)
  else .ok { walk with stack := key :: walk.stack, visits := walk.visits + 1 }

/-- Closes the innermost entry. -/
def leave (walk : Walk) : Walk :=
  { walk with stack := walk.stack.tail }

/-- Uses up output. -/
def charge (walk : Walk) (limits : Limits) (bytes : Nat) : Except ResolveError Walk :=
  let total := min (walk.outputBytes + bytes) maxCount
  if limits.maxOutputBytes < total then
    .error (.expansionLimit walk.requested limits.maxOutputBytes .output)
  else .ok { walk with outputBytes := total }

/-- Puts text behind the fragments, given with the newest first. -/
def joinText (content : String) : List Fragment → List Fragment
  | .text earlier :: older => .text (earlier ++ content) :: older
  | fragments => .text content :: fragments

/-- Writes text. -/
def writeText (walk : Walk) (limits : Limits) (content : String) : Except ResolveError Walk :=
  match walk.charge limits content.utf8ByteSize with
  | .error fault => .error fault
  | .ok charged => .ok { charged with written := joinText content charged.written }

/-- Writes a placeholder. -/
def writePlaceholder (walk : Walk) (limits : Limits) (name : String) :
    Except ResolveError Walk :=
  match walk.charge limits name.utf8ByteSize with
  | .error fault => .error fault
  | .ok charged => .ok { charged with written := .placeholder name :: charged.written }

end Walk

end Phrasebook
