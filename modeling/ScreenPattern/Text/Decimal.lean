namespace ScreenPattern.Text

def natOfDigits (digits : List Char) : Nat :=
  digits.foldl (fun n c => 10 * n + (c.toNat - '0'.toNat)) 0

/-- A number as written: `whole` and `fraction` are the digits on either side of the point. -/
structure Decimal where
  negative : Bool
  whole : List Char
  /-- Empty when there is no point. -/
  fraction : List Char
  /-- Absent when no exponent is written. -/
  exponent : Option Int

namespace Decimal

def isPlain (d : Decimal) : Bool :=
  d.fraction.isEmpty && d.exponent.isNone

/-- The integer that a plain literal denotes. -/
def plainValue (d : Decimal) : Int :=
  if d.negative then -(natOfDigits d.whole : Int) else natOfDigits d.whole

/-- A magnitude from here on is rounded to infinity. -/
def overflowBound : Nat :=
  Nat.pow 2 1024 - Nat.pow 2 970

/-- The magnitude is rounded to infinity. The number of digits before the point decides all but the
values with exactly as many as the bound. -/
def overflows (d : Decimal) : Bool :=
  let significand := natOfDigits (d.whole ++ d.fraction)
  let scale : Int := d.exponent.getD 0 - d.fraction.length
  let digits : Int := (Nat.toDigits 10 significand).length
  if significand == 0 || digits + scale < 309 then false
  else if digits + scale > 309 then true
  else if scale < 0 then overflowBound * Nat.pow 10 (-scale).toNat ≤ significand
  else overflowBound ≤ significand * Nat.pow 10 scale.toNat

def signOf : List Char → Option Bool × List Char
  | '-' :: rest => (some true, rest)
  | '+' :: rest => (some false, rest)
  | rest => (none, rest)

/-- The exponent part of a literal, after its mark: a sign, if any, and digits up to the end. -/
def exponent? (cs : List Char) : Option Int :=
  let (sign, digits) := signOf cs
  if digits.isEmpty || !digits.all Char.isDigit then none
  else if sign == some true then some (-(natOfDigits digits : Int))
  else some (natOfDigits digits)

/-- A literal without its sign: digits with no zero in front, then a point and at least one digit if
there is a point, then an exponent if there is a mark. -/
def ofUnsigned? (negative : Bool) (cs : List Char) : Option Decimal :=
  let whole := cs.takeWhile Char.isDigit
  let afterWhole := cs.dropWhile Char.isDigit
  let fraction := match afterWhole with
    | '.' :: rest => rest.takeWhile Char.isDigit
    | _ => []
  let afterFraction := match afterWhole with
    | '.' :: rest => rest.dropWhile Char.isDigit
    | rest => rest
  let bare := whole.isEmpty || (whole.head? == some '0' && whole.length > 1)
  let loosePoint := afterWhole.head? == some '.' && fraction.isEmpty
  if bare || loosePoint then none
  else match afterFraction with
    | [] => some ⟨negative, whole, fraction, none⟩
    | c :: rest =>
      if c == 'e' || c == 'E' then
        (exponent? rest).map fun e => ⟨negative, whole, fraction, some e⟩
      else none

end Decimal

end ScreenPattern.Text
