/-
This file compares rendering with a fallback to plain rendering. The two go different ways:
one renders a key at once, the other resolves it first and keeps the resolution, to show it
without the values that are missing. They come to the same causes. A session is any number
of requests served one after another, with a sink that may do anything with the records it
is handed. Each request hands it one record if plain rendering fails, and none otherwise,
so the texts of a session and its records can be told from plain rendering alone.
-/

import Phrasebook.Proofs.Build.AuditLog

namespace Phrasebook

/-! ### What a record tells -/

/-- The record tells that a request got no text of its own, and why. -/
structure Audit.Record.Tells (record : Record) (request : Catalog.Request)
    (cause : ResolveError) : Prop where
  timestamp : record.timestamp = request.timestamp
  event : record.event = .renderFallback request.key cause
  /-- The key is told as the caller wrote it, and the cause by its kind and its message. -/
  members : record.event.members record.timestamp =
    [("event", Json.quote "render_fallback"),
      ("timestamp_ms", Json.writeNatural request.timestamp),
      ("key", Json.quote request.key),
      ("error_kind", Json.quote cause.label),
      ("message", Json.quote cause.message),
      ("severity", Json.quote record.event.severity.name)]
  /-- A key that is not found and a value that was not supplied are worth a warning. -/
  warning_iff : record.event.severity = .warn ↔
    (∃ missing, cause = .keyNotFound missing) ∨
      ∃ path name, cause = .missingPlaceholder path name
  /-- Anything else is an error. -/
  error_iff : record.event.severity = .error ↔ record.event.severity ≠ .warn

namespace Catalog

/-- The record of a request that falls back. -/
def Request.record (request : Request) (cause : ResolveError) : Audit.Record :=
  ⟨request.timestamp, .renderFallback request.key cause⟩

theorem Request.tells_record (request : Request) (cause : ResolveError) :
    (request.record cause).Tells request cause where
  timestamp := rfl
  event := rfl
  members := rfl
  warning_iff := by
    cases cause <;> simp [record, Audit.Event.severity, ResolveError.isRecoverable]
  error_iff := by
    cases cause <;> simp [record, Audit.Event.severity, ResolveError.isRecoverable]

variable {catalog : Catalog} {request : Request}

/-! ### One request -/

/-- What comes of a request: the text that is shown, and what is recorded. -/
structure Answer where
  text : String
  records : List Audit.Record

/-- The answer to a request, by what plain rendering comes to. -/
inductive Answers (catalog : Catalog) (request : Request) : Answer → Prop
  /-- The text that was asked for is shown, and nothing is recorded. -/
  | rendered {text : String}
      (succeeded : catalog.render request.key request.values = .ok text) :
      Answers catalog request ⟨text, []⟩
  /-- If only a value is missing, the resolution is shown with the values that there are. -/
  | incomplete {resolution : Resolution} {path : KeyPath} {name : String} {record : Audit.Record}
      (resolved : catalog.resolve request.key = .ok resolution)
      (failed : catalog.render request.key request.values =
        .error (.missingPlaceholder path name))
      (tells : record.Tells request (.missingPlaceholder path name)) :
      Answers catalog request ⟨resolution.renderLenient request.values, [record]⟩
  /-- If there is no resolution, the key is shown as the caller wrote it. -/
  | unresolved {cause : ResolveError} {record : Audit.Record}
      (failed : catalog.render request.key request.values = .error cause)
      (other : ∀ path name, cause ≠ .missingPlaceholder path name)
      (tells : record.Tells request cause) :
      Answers catalog request ⟨request.key, [record]⟩

/-- What rendering with a fallback gives for a request. -/
def answer (catalog : Catalog) (request : Request) : Answer :=
  match catalog.renderOrFallback request.key request.values with
  | (text, event) => ⟨text, event.toList.map fun event => ⟨request.timestamp, event⟩⟩

/-- No key fails to resolve for want of a value. -/
theorem resolve_ne_missingPlaceholder (key : String) (path : KeyPath) (name : String) :
    catalog.resolve key ≠ .error (.missingPlaceholder path name) := by
  intro failed
  rcases catalog.resolver.resolve_cases key with absent | ⟨start, -, same⟩
  · rw [resolve, absent] at failed
    cases failed
  · rw [resolve, same] at failed
    exact Resolver.trueOf_of_visit_start (Resolver.visit_start_of_resolvePath failed)

/-- Rendering with a fallback gives the answer that plain rendering calls for. -/
theorem answers_answer (catalog : Catalog) (request : Request) :
    catalog.Answers request (catalog.answer request) := by
  cases resolved : catalog.resolve request.key with
  | error cause =>
    have failed : catalog.render request.key request.values = .error cause := by
      rw [render, Resolver.render, ← resolve, resolved]
    simp only [answer, renderOrFallback, resolved]
    refine .unresolved failed (fun path name same => ?_) (request.tells_record cause)
    exact resolve_ne_missingPlaceholder _ path name (same ▸ resolved)
  | ok resolution =>
    have same : catalog.render request.key request.values =
        resolution.render request.values := by
      rw [render, Resolver.render, ← resolve, resolved]
    cases rendered : resolution.render request.values with
    | ok text =>
      simp only [answer, renderOrFallback, resolved, rendered]
      exact .rendered (same.trans rendered)
    | error cause =>
      obtain ⟨name, rfl⟩ := Resolution.eq_missingPlaceholder_of_render rendered
      simp only [answer, renderOrFallback, resolved, rendered]
      exact .incomplete resolved (same.trans rendered) (request.tells_record _)

/-! ### Sessions -/

/-- Serves requests one after another, and hands each record as it comes to a sink in some
state: the texts that are shown, and the state in the end. -/
def session {State : Type} (accept : State → Audit.Record → State) (catalog : Catalog) :
    List Request → State → List String × State
  | [], state => ([], state)
  | request :: rest, state =>
    match catalog.renderOrFallback request.key request.values with
    | (text, none) =>
      let (texts, last) := session accept catalog rest state
      (text :: texts, last)
    | (text, some event) =>
      let (texts, last) := session accept catalog rest (accept state ⟨request.timestamp, event⟩)
      (text :: texts, last)

theorem session_cons {State : Type} (accept : State → Audit.Record → State)
    (request : Request) (rest : List Request) (state : State) :
    catalog.session accept (request :: rest) state =
      ((catalog.answer request).text ::
          (catalog.session accept rest ((catalog.answer request).records.foldl accept state)).1,
        (catalog.session accept rest ((catalog.answer request).records.foldl accept state)).2) := by
  rw [session, answer]
  split <;> rename_i given <;> rw [given] <;> rfl

/-- A session shows the text of each answer and hands over the records of each, in their order. -/
theorem session_eq {State : Type} (accept : State → Audit.Record → State)
    (requests : List Request) (state : State) :
    catalog.session accept requests state =
      (requests.map fun request => (catalog.answer request).text,
        (requests.flatMap fun request => (catalog.answer request).records).foldl accept state) := by
  induction requests generalizing state with
  | nil => rfl
  | cons request rest inductionHypothesis =>
    rw [session_cons, inductionHypothesis, List.flatMap_cons, List.foldl_append, List.map_cons]

/-- Serving requests in an environment is a session whose sink writes there. -/
theorem serve_eq_session (sink : Audit.Sink) (requests : List Request)
    (environment : Environment) :
    catalog.serve sink requests environment =
      (catalog.session (fun changed record => changed.record sink record.timestamp record.event)
        requests environment).2 := by
  induction requests generalizing environment with
  | nil => rfl
  | cons request rest inductionHypothesis =>
    rw [serve, inductionHypothesis, session_cons, renderRecorded, answer]
    cases catalog.renderOrFallback request.key request.values with
    | mk text event => cases event <;> rfl

/-- Whatever requests are served in a session, each is answered as plain rendering calls for,
with a record if that fails and none otherwise. The session shows the texts of the answers, and
the sink is handed their records and nothing else, each once and in their order; the sinks of an
environment are among those. -/
theorem session_answers (catalog : Catalog) (requests : List Request) :
    ∃ answers, List.Forall₂ catalog.Answers requests answers ∧
      (∀ (State : Type) (accept : State → Audit.Record → State) (state : State),
        catalog.session accept requests state =
          (answers.map Answer.text, (answers.flatMap Answer.records).foldl accept state)) ∧
      ∀ (sink : Audit.Sink) (environment : Environment),
        catalog.serve sink requests environment =
          (answers.flatMap Answer.records).foldl
            (fun changed record => changed.record sink record.timestamp record.event)
            environment := by
  refine ⟨requests.map catalog.answer, ?_, ?_, ?_⟩
  · rw [List.forall₂_map_right_iff, List.forall₂_same]
    exact fun request _ => catalog.answers_answer request
  · intro State accept state
    rw [session_eq, List.map_map, List.flatMap_map]
    rfl
  · intro sink environment
    rw [serve_eq_session, session_eq, List.flatMap_map]

end Catalog

end Phrasebook
