/-
This file defines the values of TOML documents. Of numbers that are no integers
and of dates and times only what later readers ask about is kept. A document may
hold words that look like integers and are none, as long as nobody asks for their
values. A table knows how it came to be, because that decides what a later line
may still add to it.
-/

namespace Phrasebook.Toml

/-- How a table came to be. -/
inductive Origin
  /-- It stands in braces and is complete. -/
  | inline
  /-- A header names it. -/
  | header
  /-- A header names a table inside of it. -/
  | implied
  /-- A dotted key names a value inside of it. -/
  | dotted
deriving DecidableEq, Repr

/-- A value. -/
inductive Value
  | text (content : String)
  | integer (value : Int)
  /-- A word that looks like an integer and has no value. -/
  | unreadInteger
  /-- Any other number, and whether there is a binary64 number near it. -/
  | decimal (inRange : Bool)
  | boolean (value : Bool)
  /-- A date, a time or both. -/
  | moment
  | list (elements : List Value)
  | table (origin : Origin) (members : List (String × Value))
  /-- The tables that one doubled header after another adds, the newest first. -/
  | tables (newestFirst : List (List (String × Value)))

/-- The members of a table with their keys. -/
abbrev Members : Type := List (String × Value)

/-! ### Kinds of values -/

namespace Value

/-- The text that a value is. -/
def text? : Value → Option String
  | .text content => some content
  | _ => none

/-- The truth value that a value is. -/
def boolean? : Value → Option Bool
  | .boolean value => some value
  | _ => none

/-- The size that a value is, a natural number below `2^64`. -/
def size? : Value → Option Nat
  | .integer value => if 0 ≤ value ∧ value < (Nat.pow 2 64 : Nat) then some value.toNat else none
  | _ => none

/-- The texts that the elements of a value are. -/
def texts? : Value → Option (List String)
  | .list elements => elements.mapM text?
  | _ => none

end Value

/-! ### Numbers in range -/

/-- Integers have to fit into 128 bits, with or without a sign. -/
def integerInRange (value : Int) : Bool :=
  decide (-(Nat.pow 2 127 : Nat) ≤ value ∧ value < (Nat.pow 2 128 : Nat))

mutual

/-- Whether all numbers in a value have values and are in range. -/
def Value.inRange : Value → Bool
  | .integer value => integerInRange value
  | .unreadInteger => false
  | .decimal inRange => inRange
  | .list elements => Value.allInRange elements
  | .table _ members => Value.membersInRange members
  | .tables newestFirst => Value.tablesInRange newestFirst
  | _ => true
termination_by structural value => value

/-- Whether all numbers in the values have values and are in range. -/
def Value.allInRange : List Value → Bool
  | [] => true
  | value :: rest => value.inRange && Value.allInRange rest
termination_by structural values => values

/-- Whether all numbers in the members of a table have values and are in range. -/
def Value.membersInRange : List (String × Value) → Bool
  | [] => true
  | (_, value) :: rest => value.inRange && Value.membersInRange rest
termination_by structural members => members

/-- Whether all numbers in the tables have values and are in range. -/
def Value.tablesInRange : List (List (String × Value)) → Bool
  | [] => true
  | members :: rest => Value.membersInRange members && Value.tablesInRange rest
termination_by structural tables => tables

end

end Phrasebook.Toml
