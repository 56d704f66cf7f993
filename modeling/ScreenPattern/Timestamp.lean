/-!
Points in time, counted from the beginning of 1970, and their text in the proleptic Gregorian
calendar.
-/

namespace ScreenPattern

/-- Seconds and nanoseconds since the epoch. In the last second of a minute the nanoseconds may go
on through a leap second. -/
structure Timestamp where
  seconds : Int
  nanoseconds : Nat
  deriving Repr, DecidableEq

namespace Timestamp

def secondsPerDay : Int := 86400

structure Date where
  year : Int
  month : Int
  day : Int
  deriving Repr, DecidableEq

/-- The date of a day counted from the epoch. Years are counted from March within eras of 400 years,
so that the leap day is the last day of its year. -/
def dateOf (day : Int) : Date :=
  let shifted := day + 719468
  let era := shifted / 146097
  let dayOfEra := shifted % 146097
  let yearOfEra :=
    (dayOfEra - dayOfEra / 1460 + dayOfEra / 36524 - dayOfEra / 146096) / 365
  let dayOfYear := dayOfEra - (365 * yearOfEra + yearOfEra / 4 - yearOfEra / 100)
  let fromMarch := (5 * dayOfYear + 2) / 153
  let day := dayOfYear - (153 * fromMarch + 2) / 5 + 1
  let month := if fromMarch < 10 then fromMarch + 3 else fromMarch - 9
  { year := yearOfEra + era * 400 + (if month ≤ 2 then 1 else 0), month, day }

/-- The point in time, if its nanoseconds are in range and its year can be represented. -/
def ofEpoch? (seconds nanoseconds : Int) : Option Timestamp :=
  let year := (dateOf (seconds / secondsPerDay)).year
  let limit : Int := if seconds % 60 = 59 then 2000000000 else 1000000000
  if 0 ≤ nanoseconds && nanoseconds < limit && -262143 ≤ year && year ≤ 262142 then
    some ⟨seconds, nanoseconds.toNat⟩
  else none

def padded (width : Nat) (n : Nat) : String :=
  let digits := Nat.toDigits 10 n
  String.ofList (List.replicate (width - digits.length) '0' ++ digits)

/-- Four digits, or a sign and at least four digits. -/
def yearText (year : Int) : String :=
  if 0 ≤ year && year ≤ 9999 then padded 4 year.toNat
  else (if year < 0 then "-" else "+") ++ padded 4 year.natAbs

/-- The text of RFC 3339 in universal time, with milliseconds that are cut off. A leap second is the
second 60. -/
def rfc3339 (t : Timestamp) : String :=
  let date := dateOf (t.seconds / secondsPerDay)
  let secondOfDay := (t.seconds % secondsPerDay).toNat
  let leap := if t.nanoseconds < 1000000000 then 0 else 1
  let millis := (t.nanoseconds - leap * 1000000000) / 1000000
  yearText date.year ++ "-" ++ padded 2 date.month.toNat ++ "-" ++ padded 2 date.day.toNat ++ "T"
    ++ padded 2 (secondOfDay / 3600) ++ ":" ++ padded 2 (secondOfDay / 60 % 60) ++ ":"
    ++ padded 2 (secondOfDay % 60 + leap) ++ "." ++ padded 3 millis ++ "Z"

end Timestamp

end ScreenPattern
