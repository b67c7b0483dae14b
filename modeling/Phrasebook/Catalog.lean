/-
This file defines catalogs, through which strings are shown: a primary table, the
shared tables that stand in for it, and the limits of resolution. Rendering with a
fallback never fails. What it shows instead is the text with the missing
placeholders as they are written, or the key if there is no text, and it then also
gives the event to record.
-/

import Phrasebook.Audit
import Phrasebook.Resolve.Resolver

namespace Phrasebook

/-- Tables with the limits of their resolution. -/
structure Catalog where
  primary : Table
  shared : List Table := []
  limits : Limits := {}

namespace Catalog

/-- The resolver that looks at the primary table first and then at the shared ones. -/
def resolver (catalog : Catalog) : Resolver :=
  ⟨catalog.primary :: catalog.shared, catalog.limits⟩

/-- The catalog with one more shared table, which is looked at last. -/
def withShared (catalog : Catalog) (table : Table) : Catalog :=
  { catalog with shared := catalog.shared ++ [table] }

/-! ### Strings -/

/-- Whether some table has an entry at the key. -/
def contains (catalog : Catalog) (key : String) : Bool :=
  match KeyPath.parse key with
  | .error _ => false
  | .ok path => (catalog.resolver.lookup path).isSome

/-- Resolves a key. -/
def resolve (catalog : Catalog) (key : String) : Except ResolveError Resolution :=
  catalog.resolver.resolve key

/-- Resolves a key and renders the result. -/
def render (catalog : Catalog) (key : String) (values : Values) : Except ResolveError String :=
  catalog.resolver.render key values

/-- Renders a key without ever failing, and gives the event to record if that is not the text
that was asked for. -/
def renderOrFallback (catalog : Catalog) (key : String) (values : Values) :
    String × Option Audit.Event :=
  match catalog.resolve key with
  | .error cause => (key, some (.renderFallback key cause))
  | .ok resolution =>
    match resolution.render values with
    | .error cause => (resolution.renderLenient values, some (.renderFallback key cause))
    | .ok text => (text, none)

/-! ### The whole catalog -/

/-- The errors of all entries. -/
def validate (catalog : Catalog) : List ResolveError :=
  catalog.resolver.validate

/-- The event that the catalog was put together and that this many problems were found. -/
def loadEvent (catalog : Catalog) (problems : Nat) : Audit.Event :=
  .catalogLoad catalog.primary.size (catalog.shared.map Table.size)
    catalog.limits.maxRedirectDepth problems

/-- A short description for people who look for faults. -/
def description (catalog : Catalog) : String :=
  "Catalog \x7b primary_keys: " ++ toString catalog.primary.size ++
    ", shared_tables: " ++ toString catalog.shared.length ++
    ", limits: ResolveLimits \x7b max_redirect_depth: " ++
      toString catalog.limits.maxRedirectDepth ++
    ", max_expansions: " ++ toString catalog.limits.maxExpansions ++
    ", max_output_bytes: " ++ toString catalog.limits.maxOutputBytes ++ " \x7d, .. \x7d"

end Catalog

end Phrasebook
