/-
This file shows what a catalog promises that was built with its references
followed. Building refuses a catalog with problems, so validation finds nothing in
one that was built, and whatever key is asked for, the only things left to go wrong
are those a caller can recover from.
-/

import Phrasebook.Build.Catalog
import Phrasebook.Proofs.Load.WellFormed
import Phrasebook.Proofs.Resolve.Validation

namespace Phrasebook

/-! ### What building refuses -/

/-- A catalog is only put together without problems. -/
theorem Catalog.problems_eq_nil_of_finish {catalog finished : Catalog} {sink used : Audit.Sink}
    {problems : List ResolveError} {timestamp : Nat} {environment : Environment}
    (made : (catalog.finish sink problems timestamp environment).1 = .ok (finished, used)) :
    finished = catalog ∧ problems = [] := by
  unfold finish at made
  simp only at made
  split at made
  · rename_i none
    cases made
    exact ⟨rfl, List.isEmpty_iff.mp none⟩
  · cases made

theorem Config.problems_eq_nil_of_build {config : Config} {timestamp : Nat}
    {environment : Environment} {catalog : Catalog} {sink : Audit.Sink}
    (built : (config.build timestamp environment).1 = .ok (catalog, sink)) :
    config.problems catalog = [] := by
  unfold build at built
  split at built
  · cases built
  · simp only at built
    split at built
    · cases built
    · split at built
      · cases built
      · split at built
        · cases built
        · obtain ⟨rfl, unproblematic⟩ := Catalog.problems_eq_nil_of_finish built
          exact unproblematic

/-- Validation finds nothing in a catalog that was built with its references followed. -/
theorem Config.validate_eq_nil_of_build {config : Config} {timestamp : Nat}
    {environment : Environment} {catalog : Catalog} {sink : Audit.Sink}
    (followed : config.load.validateReferences = true)
    (built : (config.build timestamp environment).1 = .ok (catalog, sink)) :
    catalog.resolver.validate = [] := by
  have unproblematic := problems_eq_nil_of_build built
  rw [problems, if_pos followed] at unproblematic
  exact unproblematic

/-! ### Errors a caller can recover from -/

theorem Resolution.eq_missingPlaceholder_of_render {resolution : Resolution} {values : Values}
    {fault : ResolveError} (failed : resolution.render values = .error fault) :
    ∃ name, fault = .missingPlaceholder resolution.key name := by
  unfold render at failed
  split at failed
  · rename_i name missing
    cases failed
    exact ⟨name, rfl⟩
  · cases failed

namespace Catalog

variable {catalog : Catalog}

theorem render_recoverable (valid : catalog.resolver.validate = []) (key : String)
    (values : Values) :
    (∃ text, catalog.render key values = .ok text) ∨
      (∃ missing, catalog.render key values = .error (.keyNotFound missing)) ∨
      ∃ path name, catalog.render key values = .error (.missingPlaceholder path name) := by
  unfold render Resolver.render
  rcases Resolver.validate_eq_nil_iff_resolve.mp valid key with ⟨resolution, resolved⟩ |
    ⟨missing, failed⟩
  · rw [resolved]
    simp only
    cases rendered : resolution.render values with
    | ok text => exact Or.inl ⟨text, rfl⟩
    | error fault =>
      obtain ⟨name, rfl⟩ := Resolution.eq_missingPlaceholder_of_render rendered
      exact Or.inr (Or.inr ⟨_, name, rfl⟩)
  · rw [failed]
    exact Or.inr (Or.inl ⟨missing, rfl⟩)

/-- The event of a fallback has the cause for which rendering fails. -/
theorem renderOrFallback_event (catalog : Catalog) (key : String) (values : Values) :
    (catalog.renderOrFallback key values).2 =
      match catalog.render key values with
      | .ok _ => none
      | .error cause => some (.renderFallback key cause) := by
  unfold renderOrFallback render Resolver.render resolve
  cases catalog.resolver.resolve key with
  | error cause => rfl
  | ok resolution =>
    simp only
    cases resolution.render values <;> rfl

theorem severity_of_renderOrFallback (valid : catalog.resolver.validate = []) (key : String)
    (values : Values) :
    ∀ event ∈ (catalog.renderOrFallback key values).2, event.severity ≠ .error := by
  rw [renderOrFallback_event]
  rcases catalog.render_recoverable valid key values with ⟨text, rendered⟩ |
    ⟨missing, failed⟩ | ⟨path, name, failed⟩
  · rw [rendered]
    intro event absent
    cases absent
  · rw [failed]
    intro event same
    cases same
    exact fun impossible => nomatch impossible
  · rw [failed]
    intro event same
    cases same
    exact fun impossible => nomatch impossible

end Catalog

/-- Validation finds nothing exactly when each key of any text resolves or is not found. So with
a catalog that was built with its references followed, rendering gives the text or fails for a
key that is not found or a placeholder without a value, and no event is an error. -/
theorem validation_guarantees :
    (∀ resolver : Resolver, resolver.validate = [] ↔
      ∀ key, (∃ resolution, resolver.resolve key = .ok resolution) ∨
        ∃ missing, resolver.resolve key = .error (.keyNotFound missing)) ∧
    ∀ (config : Config) (timestamp : Nat) (environment : Environment) (catalog : Catalog)
      (sink : Audit.Sink), config.load.validateReferences = true →
      (config.build timestamp environment).1 = .ok (catalog, sink) →
      ∀ (key : String) (values : Values),
        ((∃ text, catalog.render key values = .ok text) ∨
          (∃ missing, catalog.render key values = .error (.keyNotFound missing)) ∨
          ∃ path name, catalog.render key values = .error (.missingPlaceholder path name)) ∧
        ∀ event ∈ (catalog.renderOrFallback key values).2, event.severity ≠ .error := by
  refine ⟨fun resolver => Resolver.validate_eq_nil_iff_resolve, ?_⟩
  intro config timestamp environment catalog sink followed built key values
  have valid := Config.validate_eq_nil_of_build followed built
  exact ⟨catalog.render_recoverable valid key values,
    catalog.severity_of_renderOrFallback valid key values⟩

/-- The path of a template with a reference to another one. -/
def greeting : KeyPath := ⟨["greeting"], by decide, by decide⟩

/-- A document with a greeting of a guest, who has a title and a name. -/
def greetingDocument : ByteArray :=
  "\x7b\"greeting\":\"Hello [%key:guest%]!\",\"guest\":\"\x7btitle\x7d \x7bname\x7d\"\x7d".toUTF8

/-- A working directory with that document and no other. -/
def greetingEnvironment : Environment :=
  { files := FileSystem.withFile {} ⟨.working 0, ["strings.en.json"]⟩ greetingDocument }

/-- A configuration whose references are followed to this depth. -/
def greetingConfig (depth : Nat) : Config :=
  { limits := { maxRedirectDepth := depth }, load := { validateReferences := true } }

/-- Values for a guest whose name is not known. -/
def nameless : Values := Values.ofPairs [("title", "Dr")]

/-- Where the reference in the greeting cannot be followed, nothing is built. Where it can, the
greeting is rendered with the title and the name of the guest, and without the name it fails and
causes a warning. -/
theorem validation_guarantees_greeting :
    ((greetingConfig 0).build 0 greetingEnvironment).1.isOk = false ∧
    ∃ catalog sink, (greetingConfig 1).load.validateReferences = true ∧
      ((greetingConfig 1).build 0 greetingEnvironment).1 = .ok (catalog, sink) ∧
      catalog.render "greeting" (Values.ofPairs [("title", "Dr"), ("name", "Ada")]) =
        .ok "Hello Dr Ada!" ∧
      (catalog.renderOrFallback "greeting" nameless).2 =
        some (.renderFallback "greeting" (.missingPlaceholder greeting "name")) ∧
      ((∃ text, catalog.render "greeting" nameless = .ok text) ∨
        (∃ missing, catalog.render "greeting" nameless = .error (.keyNotFound missing)) ∨
        ∃ path name, catalog.render "greeting" nameless =
          .error (.missingPlaceholder path name)) ∧
      ∀ event ∈ (catalog.renderOrFallback "greeting" nameless).2, event.severity ≠ .error := by
  have shallow : ((greetingConfig 0).build 0 greetingEnvironment).1.isOk = false := by
    decide +kernel
  have seen : ((greetingConfig 1).build 0 greetingEnvironment).1.map (fun built =>
      (built.1.render "greeting" (Values.ofPairs [("title", "Dr"), ("name", "Ada")]),
        (built.1.renderOrFallback "greeting" nameless).2)) =
      .ok (.ok "Hello Dr Ada!",
        some (.renderFallback "greeting" (.missingPlaceholder greeting "name"))) := by
    decide +kernel
  obtain ⟨⟨catalog, sink⟩, built, shown⟩ := exists_of_map_eq_ok seen
  have guarantees := validation_guarantees.2 (greetingConfig 1) 0 greetingEnvironment catalog sink
    rfl built "greeting" nameless
  exact ⟨shallow, catalog, sink, rfl, built, congrArg Prod.fst shown, congrArg Prod.snd shown,
    guarantees⟩

end Phrasebook
