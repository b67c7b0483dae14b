/-
This file defines audit events. Putting a catalog together is one kind of event,
and showing something else than what was asked for is the other. An event is
recorded as one line, a JSON object in which no line feed is left, since strings
are written with their control characters escaped.
-/

import Phrasebook.Json.Compact
import Phrasebook.Resolve.Error

namespace Phrasebook.Audit

/-! ### Events -/

/-- How serious an event is. -/
inductive Severity
  | info
  | warn
  | error
deriving DecidableEq, Repr

/-- The name of a severity in records. -/
def Severity.name : Severity → String
  | .info => "info"
  | .warn => "warn"
  | .error => "error"

/-- What is worth a record. -/
inductive Event
  /-- A catalog was put together: the number of entries of the primary table and of each shared
  one, the depth limit, and how many faults validation found. -/
  | catalogLoad (primaryKeys : Nat) (sharedKeys : List Nat) (maxRedirectDepth problems : Nat)
  /-- The text for a key, given as the caller wrote it, could not be shown. -/
  | renderFallback (key : String) (cause : ResolveError)
deriving DecidableEq

namespace Event

/-- A fault of the tables is an error, and what a caller can recover from is a warning. -/
def severity : Event → Severity
  | .catalogLoad _ _ _ problems => if problems = 0 then .info else .error
  | .renderFallback _ cause => if cause.isRecoverable then .warn else .error

/-- The members of the record, with the time in milliseconds. -/
def members (timestamp : Nat) (event : Event) : List (String × String) :=
  match event with
  | .catalogLoad primaryKeys sharedKeys maxRedirectDepth problems =>
    [("event", Json.quote "catalog_load"),
      ("timestamp_ms", Json.writeNatural timestamp),
      ("primary_keys", Json.writeNatural primaryKeys),
      ("shared_keys", Json.writeList (sharedKeys.map Json.writeNatural)),
      ("max_redirect_depth", Json.writeNatural maxRedirectDepth),
      ("problems", Json.writeNatural problems),
      ("severity", Json.quote event.severity.name)]
  | .renderFallback key cause =>
    [("event", Json.quote "render_fallback"),
      ("timestamp_ms", Json.writeNatural timestamp),
      ("key", Json.quote key),
      ("error_kind", Json.quote cause.label),
      ("message", Json.quote cause.message),
      ("severity", Json.quote event.severity.name)]

/-- The record of an event at a time, without the line feed that ends it. -/
def line (timestamp : Nat) (event : Event) : String :=
  Json.writeObject (event.members timestamp)

end Event

end Phrasebook.Audit
