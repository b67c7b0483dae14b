/-
This file resolves keys. A resolver looks a key up in its tables in their order
and takes the first entry it meets. To resolve a key it opens the entry there,
writes text and placeholders as they come, and opens the entries that references
lead to in their places. It refuses a key that is already open and a key below
too many open ones, so the recursion is on the number of keys that may still be
opened inside one another, and it ends in any tables.
-/

import Phrasebook.Resolve.Walk
import Phrasebook.Table.Basic

namespace Phrasebook

/-- Tables in the order of lookup, and the limits of a resolution. -/
structure Resolver where
  tables : List Table
  limits : Limits := {}

namespace Resolver

/-- The resolver of a single table. -/
def ofTable (table : Table) : Resolver :=
  { tables := [table] }

/-- The entry at a path in the first table that has one. -/
def lookup (resolver : Resolver) (path : KeyPath) : Option LeafEntry :=
  resolver.tables.findSome? fun table => table.get? path

/-- The resolver with one more table, which is looked at last. -/
def withShared (resolver : Resolver) (table : Table) : Resolver :=
  { resolver with tables := resolver.tables ++ [table] }

/-! ### Expansion -/

/-- Writes segments, given what a reference expands to. -/
def writeSegments (limits : Limits)
    (expandReference : Walk → KeyPath → Except ResolveError (KeyPath × Walk)) :
    List Segment → Walk → Except ResolveError Walk
  | [], walk => .ok walk
  | .text content :: rest, walk =>
    match walk.writeText limits content with
    | .error fault => .error fault
    | .ok written => writeSegments limits expandReference rest written
  | .placeholder name :: rest, walk =>
    match walk.writePlaceholder limits name with
    | .error fault => .error fault
    | .ok written => writeSegments limits expandReference rest written
  | .reference target :: rest, walk =>
    match expandReference walk target with
    | .error fault => .error fault
    | .ok (_, written) => writeSegments limits expandReference rest written

/-- Writes what the entry at a key expands to and names the key whose template that was, if
this many keys may still be opened inside one another. -/
def expandWithin (resolver : Resolver) : Nat → Walk → KeyPath →
    Except ResolveError (KeyPath × Walk)
  | 0, walk, current => .error (walk.cycle current)
  | levels + 1, walk, current =>
    if walk.stack.contains current then .error (walk.cycle current)
    else
      match resolver.lookup current with
      | none => .error (walk.missing current)
      | some entry =>
        match walk.enter resolver.limits current with
        | .error fault => .error fault
        | .ok opened =>
          match entry with
          | .redirect target =>
            match resolver.expandWithin levels opened target with
            | .error fault => .error fault
            | .ok (origin, written) => .ok (origin, written.leave)
          | .literal template =>
            match writeSegments resolver.limits (resolver.expandWithin levels)
                template.segments opened with
            | .error fault => .error fault
            | .ok written => .ok (current, written.leave)

/-- Writes what the entry at a key expands to. As many keys may be open as the greatest
depth allows, and one more, which is the key that was asked for. -/
def expand (resolver : Resolver) (walk : Walk) (current : KeyPath) :
    Except ResolveError (KeyPath × Walk) :=
  resolver.expandWithin (resolver.limits.maxRedirectDepth + 1 - walk.stack.length) walk current

/-! ### Resolution -/

/-- Resolves a path. -/
def resolvePath (resolver : Resolver) (path : KeyPath) : Except ResolveError Resolution :=
  match resolver.expand { requested := path } path with
  | .error fault => .error fault
  | .ok (origin, walk) => .ok ⟨path, origin, walk.written.reverse⟩

/-- Resolves a key. One that is no path is found nowhere. -/
def resolve (resolver : Resolver) (key : String) : Except ResolveError Resolution :=
  match KeyPath.parse key with
  | .error _ => .error (.keyNotFound key)
  | .ok path =>
    if (resolver.lookup path).isNone then .error (.keyNotFound key)
    else resolver.resolvePath path

/-- Resolves a key and renders the result. -/
def render (resolver : Resolver) (key : String) (values : Values) :
    Except ResolveError String :=
  match resolver.resolve key with
  | .error fault => .error fault
  | .ok resolution => resolution.render values

/-- The errors of all entries of all tables, in their order. -/
def validate (resolver : Resolver) : List ResolveError :=
  resolver.tables.flatMap fun table =>
    table.keys.filterMap fun path =>
      match resolver.resolvePath path with
      | .error fault => some fault
      | .ok _ => none

end Resolver

end Phrasebook
