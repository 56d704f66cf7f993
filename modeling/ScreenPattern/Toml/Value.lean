import ScreenPattern.Fields
import ScreenPattern.Text.Decimal
import ScreenPattern.Text.Hex

/-!
TOML values. A table remembers what brought it into being, because that decides whether later lines
may still add to it.
-/

namespace ScreenPattern.Toml

inductive Origin
  /-- Its own header, which also covers the root. -/
  | header
  /-- The header of a table below it. -/
  | path
  | dotted
  /-- Braces. Nothing can be added. -/
  | braces
  deriving Repr, DecidableEq

inductive Value
  | text (value : String)
  | bool (value : Bool)
  | integer (value : Int)
  | real (literal : String)
  /-- A date, a time, or both. -/
  | moment (literal : String)
  | array (items : List Value)
  | table (origin : Origin) (entries : List (String × Value))
  /-- The tables under one repeated header, the latest first. -/
  | tables (items : List Value)
  deriving Repr, Inhabited

namespace Scalar

open Text (Decimal natOfDigits)

/-- The literal without its underscores, each of which must stand between two digits. -/
def dropUnderscores? (isDigit : Char → Bool) (before : Bool) : List Char → Option (List Char)
  | [] => some []
  | '_' :: rest =>
      if before && rest.head?.any isDigit then dropUnderscores? isDigit false rest else none
  | c :: rest => (dropUnderscores? isDigit (isDigit c) rest).map (c :: ·)

def isDigitOf (base : Nat) (c : Char) : Bool :=
  (Text.hexValue? c).any (· < base)

/-- Integers have 64 bits with a sign. -/
def integer? (n : Int) : Option Value :=
  if Int64.minValue.toInt ≤ n && n ≤ Int64.maxValue.toInt then some (.integer n) else none

/-- A literal in base 16, 8 or 2, after its mark. -/
def based? (base : Nat) (cs : List Char) : Option Value := do
  let digits ← dropUnderscores? (isDigitOf base) false cs
  if digits.isEmpty || !digits.all (isDigitOf base) then none
  else integer? (digits.foldl (fun n c => base * n + (Text.hexValue? c).getD 0) 0 : Nat)

def decimal? (cs : List Char) : Option Value := do
  let digits ← dropUnderscores? Char.isDigit false cs
  let (sign, unsigned) := Decimal.signOf digits
  let d ← Decimal.ofUnsigned? (sign == some true) unsigned
  if d.isPlain then
    integer? d.plainValue
  else if d.overflows && !d.negative then none
  else some (.real (String.ofList cs))

/-- `count` digits, with their value and what follows. -/
def digits? (count : Nat) (cs : List Char) : Option (Nat × List Char) :=
  let run := cs.take count
  if run.length = count && run.all Char.isDigit then some (natOfDigits run, cs.drop count) else none

def expect? (mark : Char) : List Char → Option (List Char)
  | c :: rest => if c = mark then some rest else none
  | [] => none

def daysIn (year month : Nat) : Nat :=
  if month = 2 then
    if year % 4 = 0 && (year % 100 != 0 || year % 400 = 0) then 29 else 28
  else if [4, 6, 9, 11].contains month then 30
  else 31

def afterDate? (cs : List Char) : Option (List Char) := do
  let (year, rest) ← digits? 4 cs
  let (month, rest) ← digits? 2 (← expect? '-' rest)
  let (day, rest) ← digits? 2 (← expect? '-' rest)
  if 1 ≤ month && month ≤ 12 && 1 ≤ day && day ≤ daysIn year month then some rest else none

/-- What follows a time of day. A minute may have a leap second. -/
def afterTime? (cs : List Char) : Option (List Char) := do
  let (hour, rest) ← digits? 2 cs
  let (minute, rest) ← digits? 2 (← expect? ':' rest)
  let (second, rest) ← digits? 2 (← expect? ':' rest)
  if 23 < hour || 59 < minute || 60 < second then none
  else match rest with
    | '.' :: fraction =>
        if fraction.head?.any Char.isDigit then some (fraction.dropWhile Char.isDigit) else none
    | _ => some rest

/-- An offset from universal time, and nothing after it. -/
def isOffset (cs : List Char) : Bool :=
  match cs with
  | ['Z'] | ['z'] => true
  | sign :: rest =>
      (sign == '+' || sign == '-') &&
        (do
          let (hour, rest) ← digits? 2 rest
          let (minute, rest) ← digits? 2 (← expect? ':' rest)
          if hour ≤ 23 && minute ≤ 59 && rest.isEmpty then some () else none).isSome
  | [] => false

def isMoment (cs : List Char) : Bool :=
  match afterDate? cs with
  | some [] => true
  | some (mark :: rest) =>
      (mark == 'T' || mark == 't' || mark == ' ') &&
        (afterTime? rest).any fun rest => rest.isEmpty || isOffset rest
  | none => afterTime? cs == some []

def ofBare? (text : String) : Option Value :=
  let cs := text.toList
  match text with
  | "true" => some (.bool true)
  | "false" => some (.bool false)
  | "inf" | "+inf" | "-inf" | "nan" | "+nan" | "-nan" => some (.real text)
  | _ =>
    if isMoment cs then some (.moment text)
    else match cs with
      | '0' :: 'x' :: digits => based? 16 digits
      | '0' :: 'o' :: digits => based? 8 digits
      | '0' :: 'b' :: digits => based? 2 digits
      | _ => decimal? cs

end Scalar

end ScreenPattern.Toml
