/-!
# Binary floating point

The finite numbers of the 64-bit binary format, as whole numbers times a power of two, and the
nearest of them to a fraction. All of it is exact arithmetic on natural numbers.
-/

namespace Bindery.Number

/-- A number that is not negative: `mantissa * 2 ^ exponent`. -/
structure Binary64 where
  /-- At most 53 binary digits. -/
  mantissa : Nat
  /-- At least the least exponent; greater only if the mantissa has 53 digits. -/
  exponent : Int
  deriving DecidableEq, Repr

namespace Binary64

/-- The number of binary digits of a mantissa. -/
def precision : Nat := 53

/-- The exponent of the smallest numbers. -/
def leastExponent : Int := -1074

/-- The exponent of the greatest numbers. -/
def greatestExponent : Int := 971

/-- The quotient rounded to the nearest whole number; a half goes to the even neighbour. -/
def divideToNearest (numerator denominator : Nat) : Nat :=
  let quotient := numerator / denominator
  let twice := 2 * (numerator % denominator)
  if denominator < twice ∨ (twice = denominator ∧ quotient % 2 = 1) then quotient + 1
  else quotient

/-- `numerator / denominator * 2 ^ shift` as a fraction. -/
def scale (numerator denominator : Nat) (shift : Int) : Nat × Nat :=
  if 0 ≤ shift then (numerator * Nat.pow 2 shift.toNat, denominator)
  else (numerator, denominator * Nat.pow 2 (-shift).toNat)

/-- The exponent of the greatest power of two that is not above a fraction that is not zero. -/
def magnitude (numerator denominator : Nat) : Int :=
  let guess : Int := (Nat.log2 numerator : Int) - (Nat.log2 denominator : Int)
  let scaled := scale numerator denominator (-guess)
  if scaled.2 ≤ scaled.1 then guess else guess - 1

/-- The nearest number to a fraction; a fraction halfway between two goes to the one with an even
mantissa. There is none if the fraction is beyond all numbers. -/
def ofFraction? (numerator denominator : Nat) : Option Binary64 :=
  if numerator = 0 then some ⟨0, leastExponent⟩
  else
    let exponent := max (magnitude numerator denominator - (precision - 1 : Nat)) leastExponent
    let scaled := scale numerator denominator (-exponent)
    let mantissa := divideToNearest scaled.1 scaled.2
    let rounded : Binary64 :=
      if mantissa = Nat.pow 2 precision then ⟨Nat.pow 2 (precision - 1), exponent + 1⟩
      else ⟨mantissa, exponent⟩
    if greatestExponent < rounded.exponent then none else some rounded

/-- Decimal exponents beyond this bound lead to zero or beyond all numbers. -/
def decimalBound : Int := 400

/-- The nearest number to `digits * 10 ^ exponent`, where `digits` has `count` decimal digits. -/
def ofDecimal? (digits count : Nat) (exponent : Int) : Option Binary64 :=
  if digits = 0 ∨ exponent + count < -decimalBound then some ⟨0, leastExponent⟩
  else if decimalBound < exponent then none
  else if 0 ≤ exponent then ofFraction? (digits * Nat.pow 10 exponent.toNat) 1
  else ofFraction? digits (Nat.pow 10 (-exponent).toNat)

end Binary64

end Bindery.Number
