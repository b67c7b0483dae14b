/-
This file puts the tables of a TOML document together. A key leads through tables
to the place of its last part. On its way a header passes through every table but
one in braces, and a dotted key only through tables that no header names; both
pass to the newest of the tables that doubled headers add, and both make the
tables that are missing. At the last part a header finds nothing, or a table that
was only implied, which it names from now on. A value is set where nothing is yet.
-/

import Phrasebook.Toml.Value

namespace Phrasebook.Toml

/-- A key with dots: the parts that lead to a table, and the part to be set there. -/
structure Key where
  above : List String
  name : String

/-! ### The way to a place -/

/-- The members with a value at a key, in the place of the one that is there. -/
def setMember (name : String) (value : Value) : Members → Members
  | [] => [(name, value)]
  | (other, held) :: rest =>
    if other = name then (name, value) :: rest
    else (other, held) :: setMember name value rest

/-- Which tables a way passes through, and how the ones it makes came to be. -/
structure Passage where
  passes : Origin → Bool
  makes : Origin

/-- Headers pass through all tables that are not in braces. -/
def Passage.ofHeader : Passage :=
  ⟨fun origin => origin != .inline, .implied⟩

/-- Dotted keys pass through tables that no header names. -/
def Passage.ofDottedKey : Passage :=
  ⟨fun origin => origin == .implied || origin == .dotted, .dotted⟩

/-- Changes the members of the table at the end of a way, whose origin is known. -/
def changeAt (passage : Passage) (change : Origin → Members → Option Members) :
    List String → Origin → Members → Option Members
  | [], origin, members => change origin members
  | name :: names, _, members =>
    match members.lookup name with
    | none =>
      (changeAt passage change names passage.makes []).map fun inner =>
        setMember name (.table passage.makes inner) members
    | some (.table origin held) =>
      if passage.passes origin then
        (changeAt passage change names origin held).map fun inner =>
          setMember name (.table origin inner) members
      else none
    | some (.tables (newest :: older)) =>
      (changeAt passage change names .header newest).map fun inner =>
        setMember name (.tables (inner :: older)) members
    | some _ => none

/-! ### Headers and values -/

/-- Names a table. -/
def nameTable (name : String) (members : Members) : Option Members :=
  match members.lookup name with
  | none => some (setMember name (.table .header []) members)
  | some (.table .implied held) => some (setMember name (.table .header held) members)
  | some _ => none

/-- Adds a table to those that doubled headers add. -/
def addTable (name : String) (members : Members) : Option Members :=
  match members.lookup name with
  | none => some (setMember name (.tables [[]]) members)
  | some (.tables newestFirst) => some (setMember name (.tables ([] :: newestFirst)) members)
  | some _ => none

/-- Sets a value. A dotted key sets it only in a table that dotted keys have made, and a
plain key only in one that they have not. -/
def setValue (plain : Bool) (name : String) (value : Value) (origin : Origin)
    (members : Members) : Option Members :=
  if plain = (origin == .dotted) then none
  else
    match members.lookup name with
    | none => some (setMember name value members)
    | some _ => none

/-- Sets a value in the table in which its line stands. -/
def assign (key : Key) (value : Value) (origin : Origin) (members : Members) : Option Members :=
  changeAt .ofDottedKey (setValue key.above.isEmpty key.name value) key.above origin members

/-! ### Documents -/

/-- A line of a document that says something. -/
inductive Statement
  /-- The table at a key is meant from here on. -/
  | header (key : Key)
  /-- A new table behind those at a key is meant from here on. -/
  | doubledHeader (key : Key)
  | assignment (key : Key) (value : Value)

/-- The members of the document so far, and the table that is meant. -/
structure Tree where
  members : Members := []
  current : List String := []

/-- Adds what a line says. -/
def Tree.add (tree : Tree) : Statement → Option Tree
  | .header key =>
    (changeAt .ofHeader (fun _ => nameTable key.name) key.above .header tree.members).map
      fun members => ⟨members, key.above ++ [key.name]⟩
  | .doubledHeader key =>
    (changeAt .ofHeader (fun _ => addTable key.name) key.above .header tree.members).map
      fun members => ⟨members, key.above ++ [key.name]⟩
  | .assignment key value =>
    (changeAt .ofHeader (assign key value) tree.current .header tree.members).map
      fun members => ⟨members, tree.current⟩

/-- Adds what the lines say, one after another. -/
def Tree.addAll (tree : Tree) : List Statement → Option Tree
  | [] => some tree
  | statement :: rest =>
    match tree.add statement with
    | none => none
    | some grown => grown.addAll rest

end Phrasebook.Toml
