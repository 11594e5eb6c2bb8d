/-! # Dates

The proleptic Gregorian calendar. Days are counted from 1 January 1970. Inside, a year starts on
1 March, so that a leap day is the last of its year, and years repeat in eras of 400. -/

namespace Rebac.Calendar

/-- A day of a month of a year. Year 0 comes before year 1. -/
structure Date where
  year : Int
  month : Nat
  day : Nat
deriving DecidableEq, Repr

/-- The days from 1 March of year 0 to 1 January 1970. -/
def epochOffset : Int := 719468

/-- The days in an era of 400 years. -/
def eraDays : Nat := 146097

/-- The year of an era, from its day. -/
def yearOfEra (dayOfEra : Nat) : Nat :=
  (dayOfEra - dayOfEra / 1460 + dayOfEra / 36524 - dayOfEra / 146096) / 365

/-- The days of an era before a year. -/
def daysBeforeYear (yearOfEra : Nat) : Nat := 365 * yearOfEra + yearOfEra / 4 - yearOfEra / 100

/-- The days before a month, counted from March as 0. -/
def daysBeforeMonth (month : Nat) : Nat := (153 * month + 2) / 5

/-- The date of a day. -/
def Date.ofDay (n : Int) : Date :=
  let z := n + epochOffset
  let era := z / eraDays
  let dayOfEra := (z % eraDays).toNat
  let year := yearOfEra dayOfEra
  let dayOfYear := dayOfEra - daysBeforeYear year
  let month := (5 * dayOfYear + 2) / 153
  let day := dayOfYear - daysBeforeMonth month + 1
  if month < 10 then ⟨era * 400 + year, month + 3, day⟩ else ⟨era * 400 + year + 1, month - 9, day⟩

/-- The day of a date. -/
def Date.toDay (d : Date) : Int :=
  let year := if d.month ≤ 2 then d.year - 1 else d.year
  let month := if d.month ≤ 2 then d.month + 9 else d.month - 3
  let era := year / 400
  let yearOfEra := (year % 400).toNat
  let dayOfEra := daysBeforeYear yearOfEra + daysBeforeMonth month + (d.day - 1)
  era * eraDays + dayOfEra - epochOffset

end Rebac.Calendar
