import ScreenPattern.Json.Basic
import ScreenPattern.Text.Decimal

/-!
Number literals. An integer of 64 bits is kept as it is. Any other number has to lie in the range of
double precision, which is judged by two factors: a significand of 64 bits, made of the leading
digits, and a power of ten. Both are rounded before they are multiplied.
-/

namespace ScreenPattern.Json

open ScreenPattern.Text (Decimal)

/-- The nearest number with at most so many significant bits. A tie goes to the even neighbour. -/
def roundToBits (bits n : Nat) : Nat :=
  let unit := Nat.pow 2 (n.log2 + 1 - bits)
  let count := n / unit
  let twiceRest := 2 * (n % unit)
  let roundsUp := unit < twiceRest || (twiceRest == unit && count % 2 == 1)
  (if roundsUp then count + 1 else count) * unit

def doublePrecision : Nat := 53

/-- A number of 64 bits, and the power of ten by which it is multiplied. -/
structure Magnitude where
  significand : Nat
  exponent : Int

namespace Magnitude

/-- Appends digits to a number as long as it fits 64 bits. Gives the digits left over as well. -/
def appendDigits (n : Nat) : List Char → Nat × List Char
  | [] => (n, [])
  | c :: rest =>
      let longer := 10 * n + (c.toNat - '0'.toNat)
      if longer < UInt64.size then appendDigits longer rest else (n, c :: rest)

/-- The magnitude of a literal. Digits that no longer fit count by their place alone; after such
digits before the point, the ones behind it are tried again. -/
def ofDecimal (d : Decimal) : Magnitude :=
  let (whole, wholeRest) := appendDigits 0 d.whole
  let (significand, fractionRest) := appendDigits whole d.fraction
  let shift : Int := wholeRest.length + fractionRest.length - d.fraction.length
  { significand, exponent := d.exponent.getD 0 + shift }

/-- The product of the factors is rounded to infinity, or its power of ten alone would be. -/
def overflows (m : Magnitude) : Bool :=
  if m.significand == 0 || m.exponent < 0 then false
  else if 308 < m.exponent then true
  else
    let significand := roundToBits doublePrecision m.significand
    let power := roundToBits doublePrecision (Nat.pow 10 m.exponent.toNat)
    Decimal.overflowBound ≤ significand * power

end Magnitude

/-- A number. A literal of digits alone that fits 64 bits, with or without a sign, is an `int`. Any
other one without a point gets one; so does minus zero. -/
def ofNumber? (word : List Char) : Option Json := do
  let d ← match word with
    | '-' :: rest => Decimal.ofUnsigned? true rest
    | rest => Decimal.ofUnsigned? false rest
  let value := d.plainValue
  let isMinusZero := d.negative && value == 0
  let fits := Int64.minValue.toInt ≤ value && value < UInt64.size
  if d.isPlain && !isMinusZero && fits then some (.int value)
  else if (Magnitude.ofDecimal d).overflows then none
  else some (.real (String.ofList word ++ if d.isPlain then ".0" else ""))

end ScreenPattern.Json
