/-
**Dates and times of the calendar.**

A moment is a number of milliseconds from the start of 1970, before it if negative.  Days are
counted in eras of 400 years, after which the calendar repeats; inside an era the year is taken to
start in March, so that the day that is put in every fourth year comes last.

Main definitions:

* `Cutover.Time.Date.ofDays` — the date of a day;
* `Cutover.Time.text?` — date and time of a moment, in years that the calendar covers.
-/

set_option autoImplicit false

namespace Cutover.Time

/-- A date. -/
structure Date where
  year : Int
  month : Nat
  day : Nat
deriving DecidableEq

/-- The days in 400 years. -/
def daysPerEra : Nat := 146097

/-- The days from the first of March of the year 0 to the start of 1970. -/
def epochOffset : Int := 719468

/-- The date of the day that is so many days after the start of 1970. -/
def Date.ofDays (days : Int) : Date :=
  let z := days + epochOffset
  let era := Int.fdiv z daysPerEra
  let dayOfEra := (z - era * daysPerEra).toNat
  let yearOfEra :=
    (dayOfEra - dayOfEra / 1460 + dayOfEra / 36524 - dayOfEra / 146096) / 365
  let dayOfYear := dayOfEra - (365 * yearOfEra + yearOfEra / 4 - yearOfEra / 100)
  -- Months are counted from March.
  let shifted := (5 * dayOfYear + 2) / 153
  let month := if shifted < 10 then shifted + 3 else shifted - 9
  { year := yearOfEra + era * 400 + (if month ≤ 2 then 1 else 0)
    month
    day := dayOfYear - (153 * shifted + 2) / 5 + 1 }

/-- A number with zeros in front up to a width. -/
def padded (width n : Nat) : String :=
  let digits := Nat.toDigits 10 n
  String.ofList (List.replicate (width - digits.length) '0' ++ digits)

/-- A year in four digits; outside the years that fit there, with its sign. -/
def yearText (year : Int) : String :=
  if 0 ≤ year ∧ year ≤ 9999 then padded 4 year.toNat
  else (if year < 0 then "-" else "+") ++ padded 4 year.natAbs

/-- The first year that the calendar covers. -/
def firstYear : Int := -262143

/-- The last year that the calendar covers. -/
def lastYear : Int := 262142

/-- Date and time of a moment, unless its year is not covered. -/
def text? (ms : Int) : Option String :=
  let seconds := Int.fdiv ms 1000
  let days := Int.fdiv seconds 86400
  let ofDay := (seconds - days * 86400).toNat
  let date := Date.ofDays days
  if firstYear ≤ date.year ∧ date.year ≤ lastYear then
    some (yearText date.year ++ "-" ++ padded 2 date.month ++ "-" ++ padded 2 date.day ++ " " ++
      padded 2 (ofDay / 3600) ++ ":" ++ padded 2 (ofDay / 60 % 60) ++ ":" ++
      padded 2 (ofDay % 60))
  else none

end Cutover.Time
