/-
This file computes with the magnitudes of binary64 numbers, exactly and on
natural numbers: a magnitude is a significand below `2^53` times a power of two
that is not below `2^-1074`. Every operation gives the nearest magnitude to the
exact result, and of two that are equally near the one with the even
significand; a result beyond the greatest magnitude has none. A decimal numeral
is read in two roundings, first its significand and then its product or quotient
with a power of ten, so it may end up next to the nearest magnitude.
-/

namespace Phrasebook.Number

/-- The magnitude `significand * 2 ^ exponent`. -/
structure Binary64 where
  significand : Nat
  exponent : Int
deriving DecidableEq, Repr

namespace Binary64

/-! ### Rounding -/

/-- The fraction `numerator / denominator` divided by `2 ^ exponent`, as a fraction. -/
def scale (numerator denominator : Nat) (exponent : Int) : Nat × Nat :=
  if 0 ≤ exponent then (numerator, denominator * Nat.pow 2 exponent.toNat)
  else (numerator * Nat.pow 2 (-exponent).toNat, denominator)

/-- The natural number nearest to a fraction, the even one if two are equally near. -/
def roundFraction (numerator denominator : Nat) : Nat :=
  let whole := numerator / denominator
  let twice := 2 * (numerator % denominator)
  if denominator < twice ∨ (twice = denominator ∧ whole % 2 = 1) then whole + 1 else whole

/-- The exponent at which a positive fraction has 53 binary digits, or the least exponent. -/
def exponentOf (numerator denominator : Nat) : Int :=
  let low : Int := max (-1074) ((numerator.log2 : Int) - denominator.log2 - 53)
  let (above, below) := scale numerator denominator low
  if above / below < Nat.pow 2 53 then low else low + 1

/-- The magnitude nearest to a fraction, unless that is beyond the greatest one. -/
def nearest (numerator denominator : Nat) : Option Binary64 :=
  if numerator = 0 then some ⟨0, 0⟩
  else
    let exponent := exponentOf numerator denominator
    let (above, below) := scale numerator denominator exponent
    let significand := roundFraction above below
    if 971 < exponent ∨ (exponent = 971 ∧ Nat.pow 2 53 ≤ significand) then none
    else if significand = Nat.pow 2 53 then some ⟨Nat.pow 2 52, exponent + 1⟩
    else some ⟨significand, exponent⟩

/-- The magnitude nearest to `above / below * 2 ^ exponent`. -/
def nearestScaled (above below : Nat) (exponent : Int) : Option Binary64 :=
  let (numerator, denominator) := scale above below (-exponent)
  nearest numerator denominator

/-! ### Powers of ten -/

/-- The greatest power of ten that is in range. -/
def greatestPower : Nat := 308

/-- The magnitude nearest to a power of ten that is in range. -/
def powerOfTen (power : Nat) : Binary64 :=
  (nearest (Nat.pow 10 power) 1).getD ⟨1, 0⟩

/-- The rounded product with a power of ten that is in range. -/
def timesPower (value : Binary64) (power : Nat) : Option Binary64 :=
  let ten := powerOfTen power
  nearestScaled (value.significand * ten.significand) 1 (value.exponent + ten.exponent)

/-- The rounded quotient by a power of ten that is in range. -/
def overPower (value : Binary64) (power : Nat) : Binary64 :=
  let ten := powerOfTen power
  (nearestScaled value.significand ten.significand (value.exponent - ten.exponent)).getD ⟨0, 0⟩

/-- The quotient by any power of ten, in steps of the greatest power in range. -/
def shrink (value : Binary64) (power : Nat) : Binary64 :=
  if value.significand = 0 then value
  else if power ≤ greatestPower then value.overPower power
  else (value.overPower greatestPower).shrink (power - greatestPower)
termination_by power
decreasing_by
  simp only [greatestPower] at *
  omega

/-! ### Decimal numerals -/

/-- Reads the numeral `significand * 10 ^ exponent`, unless it is beyond the greatest
magnitude. -/
def ofDecimal (significand : Nat) (exponent : Int) : Option Binary64 :=
  match nearest significand 1 with
  | none => none
  | some value =>
    if exponent < 0 then some (value.shrink (-exponent).toNat)
    else if value.significand = 0 then some value
    else if exponent ≤ greatestPower then value.timesPower exponent.toNat
    else none

example : ofDecimal 15 (-1) = some ⟨3 * 2 ^ 51, -52⟩ := by decide +kernel
example : ofDecimal 1 309 = none := by decide +kernel
example : nearest (2 ^ 60 - 1) 1 = some ⟨2 ^ 52, 8⟩ := by decide +kernel

end Binary64

end Phrasebook.Number
