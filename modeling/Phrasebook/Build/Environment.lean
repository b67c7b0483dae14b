/-
This file defines what a running catalog can change: files, and the lines written
to standard error. Audit records are the only thing it writes, each on a line of
its own behind what is there already.
-/

import Phrasebook.Audit
import Phrasebook.File.System

namespace Phrasebook

/-- Files, and the lines on standard error so far. -/
structure Environment where
  files : FileSystem := {}
  standardError : List String := []

/-- Where records are written. -/
inductive Audit.Sink
  | discard
  | standardError
  /-- The file at a place, which was opened for appending. -/
  | file (place : Place)
deriving DecidableEq, Repr

namespace Environment

/-- Writes a line to a sink. -/
def writeLine (environment : Environment) (sink : Audit.Sink) (line : String) : Environment :=
  match sink with
  | .discard => environment
  | .standardError => { environment with standardError := environment.standardError ++ [line] }
  | .file place => { environment with files := environment.files.appendLine place line }

/-- Records an event at a time. -/
def record (environment : Environment) (sink : Audit.Sink) (timestamp : Nat)
    (event : Audit.Event) : Environment :=
  environment.writeLine sink (event.line timestamp)

/-- Records events at a time, one after another. -/
def recordAll (environment : Environment) (sink : Audit.Sink) (timestamp : Nat)
    (events : List Audit.Event) : Environment :=
  events.foldl (fun changed event => changed.record sink timestamp event) environment

end Environment

end Phrasebook
