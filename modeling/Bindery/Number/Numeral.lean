import Bindery.Number.Digit
import Bindery.Number.Shortest
import Bindery.Text.Reader

/-!
# Numerals

Decimals with a sign, a fraction and an exponent, as they are written, and the binary numbers that
they stand for.
-/

namespace Bindery.Number

open Bindery.Text (Reader)

/-- A decimal as it was written: sign, digits before and after the point, and exponent. -/
structure Written where
  /-- Whether a minus stands in front. -/
  isNegative : Bool
  /-- The digits before the point. -/
  whole : List Char
  /-- The digits after the point. -/
  part : List Char
  /-- The exponent, with its sign. -/
  exponent : Int
  deriving DecidableEq, Repr

namespace Written

/-- The nearest binary number to a written one. -/
def number? (written : Written) : Option Binary64 :=
  let digits := written.whole ++ written.part
  let value := ofDigits 10 digits
  Binary64.ofDecimal? value (toString value).length (written.exponent - written.part.length)

/-- A written number as it is shown: by the shortest digits of the nearest binary number. -/
def shown (written : Written) : String :=
  showNumber written.isNegative written.number?

end Written

/-- A sign, if there is one: whether the number is negative. -/
def sign : Reader Bool :=
  (Reader.char '-' *> pure true) <|> (Reader.char '+' *> pure false) <|> pure false

/-- The exponent of a number, of which `digits` takes the digits. -/
def exponent (digits : Reader (List Char)) : Reader Int := do
  let _ ← Reader.satisfying fun c => c == 'e' || c == 'E'
  let isNegative ← sign
  let n : Int := ofDigits 10 (← digits)
  return if isNegative then -n else n

/-- A number with digits before or behind its point, which may be missing. -/
def written : Reader Written := do
  let isNegative ← sign
  let whole ← Reader.run Char.isDigit
  let part := (← Reader.optional (Reader.char '.' *> Reader.run Char.isDigit)).getD []
  if whole.isEmpty && part.isEmpty then failure
  let power ← Reader.optional (exponent (Reader.run1 Char.isDigit))
  return ⟨isNegative, whole, part, power.getD 0⟩

end Bindery.Number
