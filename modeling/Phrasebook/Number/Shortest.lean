/-
This file writes binary64 magnitudes in decimal. The digits are the fewest that
round to the magnitude and to no other one, and among those the nearest to it.
They are found by trying one digit, then two, and so on: at each length only the
two neighbours of the magnitude on that decimal grid can do, and seventeen digits
always suffice. Magnitudes from a hundred-thousandth up to ten to the sixteenth
are written with a point and at least one digit on each side of it, and others
with an exponent that has a sign.
-/

import Phrasebook.Number.Binary64

namespace Phrasebook.Number

/-- The decimal numeral `digits * 10 ^ exponent`. -/
structure Decimal where
  digits : Nat
  exponent : Int
deriving DecidableEq, Repr

/-- The numeral without its last digit, if that is a zero. -/
def Decimal.withoutZero (decimal : Decimal) : Decimal :=
  if decimal.digits % 10 = 0 then ⟨decimal.digits / 10, decimal.exponent + 1⟩ else decimal

namespace Binary64

/-! ### The fewest digits -/

/-- The magnitude in quarters of its last binary digit, with the two borders of the numbers
that round to it: half a digit up, and half a digit down, or a quarter where the numbers
below are twice as dense. -/
def borders (value : Binary64) : Nat × Nat × Nat :=
  let middle := 4 * value.significand
  let below := if value.significand = Nat.pow 2 52 ∧ -1074 < value.exponent then 1 else 2
  (middle - below, middle, middle + 2)

/-- A count of quarters as a multiple of `10 ^ power`: a fraction. -/
def onGrid (value : Binary64) (quarters : Nat) (power : Int) : Nat × Nat :=
  let (above, below) := scale quarters 1 (2 - value.exponent)
  if 0 ≤ power then (above, below * Nat.pow 10 power.toNat)
  else (above * Nat.pow 10 (-power).toNat, below)

/-- Whether `digits * 10 ^ power` rounds to the magnitude. -/
def isRead (value : Binary64) (power : Int) (digits : Nat) : Bool :=
  let (low, _, high) := value.borders
  let (lowAbove, lowBelow) := value.onGrid low power
  let (highAbove, highBelow) := value.onGrid high power
  if value.significand % 2 = 0 then
    decide (lowAbove ≤ digits * lowBelow ∧ digits * highBelow ≤ highAbove)
  else decide (lowAbove < digits * lowBelow ∧ digits * highBelow < highAbove)

/-- The neighbour of the magnitude among the multiples of `10 ^ power` that rounds to it, the
nearer one if both do. -/
def onGrid? (value : Binary64) (power : Int) : Option Decimal :=
  let (above, below) := value.onGrid (4 * value.significand) power
  let lower := above / below
  let nearLower := decide (2 * (above % below) < below ∨
    (2 * (above % below) = below ∧ lower % 2 = 0))
  let (first, second) := if nearLower then (lower, lower + 1) else (lower + 1, lower)
  if value.isRead power first then some (Decimal.mk first power).withoutZero
  else if value.isRead power second then some (Decimal.mk second power).withoutZero
  else none

/-- The exponent of the leading decimal digit, counted up from a guess that is not above it. -/
def leadingFrom (value : Binary64) (guess : Int) : Nat → Int
  | 0 => guess
  | steps + 1 =>
    let (above, below) := value.onGrid (4 * value.significand) (guess + 1)
    if below ≤ above then value.leadingFrom (guess + 1) steps else guess

/-- The exponent of the leading decimal digit of a positive magnitude. -/
def leading (value : Binary64) : Int :=
  let binary : Int := value.significand.log2 + value.exponent
  value.leadingFrom (binary * 30103 / 100000 - 2) 5

/-- Tries `length` digits, then one more, while `more` lengths are left. -/
def shortestFrom (value : Binary64) (length : Nat) : Nat → Decimal
  | 0 => ⟨value.significand, 0⟩
  | more + 1 =>
    match value.onGrid? (value.leading - length + 1) with
    | some decimal => decimal
    | none => value.shortestFrom (length + 1) more

/-- The shortest numeral that reads back as the magnitude. -/
def shortest (value : Binary64) : Decimal :=
  if value.significand = 0 then ⟨0, 0⟩ else value.shortestFrom 1 17

/-! ### The text -/

/-- An exponent as text, always with a sign. -/
def exponentText (exponent : Int) : String :=
  "e" ++ (if exponent < 0 then "" else "+") ++ toString exponent

/-- The magnitude as text. -/
def text (value : Binary64) : String :=
  if value.significand = 0 then "0.0"
  else
    let decimal := value.shortest
    let digits := toString decimal.digits
    let point : Int := digits.length + decimal.exponent
    if 0 ≤ decimal.exponent ∧ point ≤ 16 then
      digits ++ String.ofList (List.replicate decimal.exponent.toNat '0') ++ ".0"
    else if 0 < point ∧ point ≤ 16 then
      String.ofList (digits.toList.take point.toNat) ++ "." ++
        String.ofList (digits.toList.drop point.toNat)
    else if -5 < point ∧ point ≤ 0 then
      "0." ++ String.ofList (List.replicate (-point).toNat '0') ++ digits
    else if digits.length = 1 then digits ++ exponentText (point - 1)
    else
      String.ofList (digits.toList.take 1) ++ "." ++ String.ofList (digits.toList.drop 1) ++
        exponentText (point - 1)

end Binary64

end Phrasebook.Number
