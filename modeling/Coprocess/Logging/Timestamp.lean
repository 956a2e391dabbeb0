import Coprocess.Host.Call

/-!
# Timestamps

An instant as a date and a time of day.  Days are counted in eras of 400 years, which all have the
same number of days; years are taken to begin in March, so that the leap day is the last of its
year.
-/

namespace Coprocess.Logging

open Host

/-- A number with leading zeros, up to a width. -/
def padded (width n : Nat) : String :=
  let digits := (toString n).toList
  String.ofList (List.replicate (width - digits.length) '0' ++ digits)

/-- The number of days in 400 years. -/
def daysPerEra : Nat := 146097

/-- Year, month and day of the day that lies so many days after the first of January 1970. -/
def civil (days : Nat) : Nat × Nat × Nat :=
  -- The eras begin on the first of March of the year 0.
  let day := days + 719468
  let era := day / daysPerEra
  let ofEra := day % daysPerEra
  -- Taking the leap days out leaves years of equal length.
  let yearOfEra := (ofEra - ofEra / 1460 + ofEra / 36524 - ofEra / 146096) / 365
  let ofYear := ofEra - (365 * yearOfEra + yearOfEra / 4 - yearOfEra / 100)
  -- From March on, five months in a row always have 153 days.
  let month := (5 * ofYear + 2) / 153
  let civilMonth := if month < 10 then month + 3 else month - 9
  (yearOfEra + era * 400 + (if civilMonth ≤ 2 then 1 else 0), civilMonth,
    ofYear - (153 * month + 2) / 5 + 1)

/-- An instant as a date and a time of day. -/
def timestamp (t : Instant) : String :=
  let seconds := t / 1000000
  let (year, month, day) := civil (seconds / 86400)
  padded 4 year ++ "-" ++ padded 2 month ++ "-" ++ padded 2 day ++ "T" ++
    padded 2 (seconds / 3600 % 24) ++ ":" ++ padded 2 (seconds / 60 % 60) ++ ":" ++
      padded 2 (seconds % 60) ++
    "." ++ padded 6 (t % 1000000) ++ "Z"

end Coprocess.Logging
