import Bindery.Number.Binary64

/-!
# Shortest decimals

A binary number is shown by the fewest decimal digits that read back as the same number, and among
those by the nearest to it. They are written without an exponent.
-/

namespace Bindery.Number

/-- A decimal number that is not negative: `digits * 10 ^ exponent`. -/
structure Decimal where
  /-- The digits. -/
  digits : Nat
  /-- Where they stand. -/
  exponent : Int
  deriving DecidableEq, Repr

/-- The decimal as a fraction. -/
def Decimal.fraction (decimal : Decimal) : Nat × Nat :=
  if 0 ≤ decimal.exponent then (decimal.digits * Nat.pow 10 decimal.exponent.toNat, 1)
  else (decimal.digits, Nat.pow 10 (-decimal.exponent).toNat)

/-- Whether a decimal reads back as the given number. -/
def Decimal.readsAs (decimal : Decimal) (number : Binary64) : Bool :=
  let fraction := decimal.fraction
  Binary64.ofFraction? fraction.1 fraction.2 == some number

namespace Binary64

/-- The number as a fraction. -/
def fraction (number : Binary64) : Nat × Nat :=
  scale number.mantissa 1 number.exponent

/-- The exponent of the least power of ten that is above a fraction: the search begins at `guess`,
which is too small by at most `fuel`. -/
def decimalMagnitude (numerator denominator : Nat) (guess : Int) : Nat → Int
  | 0 => guess
  | fuel + 1 =>
    let power : Decimal := ⟨1, guess⟩
    if numerator * power.fraction.2 < power.fraction.1 * denominator then guess
    else decimalMagnitude numerator denominator (guess + 1) fuel

/-- The two decimals around a fraction whose last digit stands at the given exponent. -/
def neighbours (numerator denominator : Nat) (exponent : Int) : Decimal × Decimal :=
  let unit := Decimal.fraction ⟨1, exponent⟩
  let below := numerator * unit.2 / (denominator * unit.1)
  (⟨below, exponent⟩, ⟨below + 1, exponent⟩)

/-- Whether the first of two decimals around a fraction is the nearer one. In the middle it is the
second. -/
def isNearer (numerator denominator : Nat) (below : Decimal) (exponent : Int) : Bool :=
  let unit := Decimal.fraction ⟨1, exponent⟩
  let rest := numerator * unit.2 - below.digits * (denominator * unit.1)
  let half := denominator * unit.1
  2 * rest < half

/-- A decimal with `count` digits that reads back as the number, the nearest if there are two. -/
def decimalOf? (number : Binary64) (count : Nat) : Option Decimal :=
  let value := number.fraction
  let guess : Int := (magnitude value.1 value.2) * 30103 / 100000 - 1
  let exponent := decimalMagnitude value.1 value.2 guess 4 - count
  let around := neighbours value.1 value.2 exponent
  match around.1.readsAs number, around.2.readsAs number with
  | true, true =>
    some (if isNearer value.1 value.2 around.1 exponent then around.1 else around.2)
  | true, false => some around.1
  | false, true => some around.2
  | false, false => none

/-- The shortest decimal that reads back as the number. Seventeen digits always do. -/
def shortest (number : Binary64) : Decimal :=
  if number.mantissa = 0 then ⟨0, 0⟩
  else ((List.range 18).findSome? number.decimalOf?).getD ⟨number.mantissa, 0⟩

end Binary64

/-- A decimal without an exponent: with zeros behind its digits, or with a point in them and no zero
at the end. -/
def Decimal.positional (decimal : Decimal) : String :=
  let digits := (toString decimal.digits).toList
  if 0 ≤ decimal.exponent then
    let zeros := if decimal.digits = 0 then 0 else decimal.exponent.toNat
    String.ofList (digits ++ List.replicate zeros '0')
  else
    let places := (-decimal.exponent).toNat
    let padded := List.replicate (places + 1 - digits.length) '0' ++ digits
    let whole := padded.take (padded.length - places)
    let part := ((padded.drop (padded.length - places)).reverse.dropWhile (· == '0')).reverse
    String.ofList (if part.isEmpty then whole else whole ++ '.' :: part)

/-- A signed number that may be beyond all finite ones, as it is shown. -/
def showNumber (isNegative : Bool) (number : Option Binary64) : String :=
  (if isNegative then "-" else "")
    ++ match number with
      | some number => number.shortest.positional
      | none => "inf"

end Bindery.Number
