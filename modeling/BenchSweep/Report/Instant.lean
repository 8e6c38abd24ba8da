import BenchSweep.Text.Numeral

/-! # Points in time

    A point in time counts seconds since the start of 1970 in Greenwich.  Dates
    follow the Gregorian calendar in both directions, with a year zero. -/

namespace BenchSweep

/-- Seconds since the epoch and nanoseconds into that second; a leap second
    counts its nanoseconds on from a thousand million. -/
structure Instant where
  secs  : Int
  nanos : Nat
deriving DecidableEq, Repr

namespace Instant

/-- Year, month and day of a day counted from the epoch.  Years are taken to
    start in March, so that the leap day is their last. -/
def date (day : Int) : Int × Nat × Nat :=
  let day := day + 719468
  let era := Int.fdiv day 146097
  let inEra := (Int.fmod day 146097).toNat
  let year := (inEra - inEra / 1460 + inEra / 36524 - inEra / 146096) / 365
  let inYear := inEra - (365 * year + year / 4 - year / 100)
  let month := (5 * inYear + 2) / 153
  let dayOfMonth := inYear - (153 * month + 2) / 5 + 1
  let civil := if month < 10 then month + 3 else month - 9
  let later : Int := if civil ≤ 2 then 1 else 0
  ((year : Int) + era * 400 + later, civil, dayOfMonth)

/-- A number with leading zeros. -/
def padded (width n : Nat) : String :=
  let ds := Text.decimal n
  String.ofList (List.replicate (width - ds.length) '0' ++ ds)

/-- Four digits for the years 0 to 9999, a sign and at least four digits for
    the others. -/
def yearText (year : Int) : String :=
  if 0 ≤ year ∧ year ≤ 9999 then padded 4 year.toNat
  else (if year < 0 then "-" else "+") ++ padded 4 year.natAbs

/-- The fraction of the second, in groups of three digits. -/
def fractionText (nanos : Nat) : String :=
  if nanos = 0 then ""
  else if nanos % 1000000 = 0 then "." ++ padded 3 (nanos / 1000000)
  else if nanos % 1000 = 0 then "." ++ padded 6 (nanos / 1000)
  else "." ++ padded 9 nanos

/-- Date and time of day, with a given text for the fraction of the second. -/
def render (t : Instant) (fraction : String) : String :=
  let (year, month, day) := date (Int.fdiv t.secs 86400)
  let second := (Int.fmod t.secs 86400).toNat
  yearText year ++ "-" ++ padded 2 month ++ "-" ++ padded 2 day ++ "T"
    ++ padded 2 (second / 3600) ++ ":" ++ padded 2 (second / 60 % 60) ++ ":"
    ++ padded 2 (second % 60 + t.nanos / 1000000000) ++ fraction ++ "Z"

/-- The text to the second. -/
def toSecond (t : Instant) : String :=
  t.render ""

/-- The text to the last digit that counts. -/
def exactText (t : Instant) : String :=
  t.render (fractionText (t.nanos % 1000000000))

end Instant

end BenchSweep
