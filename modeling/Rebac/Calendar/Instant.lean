import Rebac.Calendar.Date

/-! # Instants

An instant is a count of seconds and nanoseconds since the start of 1970, in UTC. A leap second is
told by nanoseconds from `10 ^ 9` on. It may come after any second: one after a second other than 59
can only be made by setting the nanoseconds of an instant, not from a count. -/

namespace Rebac.Calendar

/-- The first and last years that have instants. -/
def leastYear : Int := -262143

@[inherit_doc leastYear]
def greatestYear : Int := 262142

/-- The second of its minute that a count of seconds is at. -/
def secondOfMinute (seconds : Int) : Int := seconds % 60

/-- Whether seconds and nanoseconds make an instant. -/
def isInstant (seconds : Int) (nanos : Nat) : Bool :=
  let year := (Date.ofDay (seconds / 86400)).year
  leastYear ≤ year && year ≤ greatestYear && nanos < 2000000000

/-- A point in time. -/
structure Instant where
  seconds : Int
  nanos : Nat
  valid : isInstant seconds nanos = true
deriving DecidableEq

/-- The instant of a count, where there is one. A count has a leap second after a second 59 only. -/
def Instant.ofUnix? (seconds : Int) (nanos : Nat) : Option Instant :=
  if h : isInstant seconds nanos = true then
    if nanos < 1000000000 ∨ secondOfMinute seconds = 59 then some ⟨seconds, nanos, h⟩ else none
  else none

/-- A span of time: whole seconds in 64 bits, and nanoseconds. -/
structure Span where
  seconds : Nat
  nanos : Nat
  valid : seconds < Nat.pow 2 64 ∧ nanos < 1000000000
deriving DecidableEq

/-- The span of a count, where there is one. -/
def Span.of? (seconds nanos : Nat) : Option Span :=
  if h : seconds < Nat.pow 2 64 ∧ nanos < 1000000000 then some ⟨seconds, nanos, h⟩ else none

/-- The decimal digits of `n`, with zeros in front up to `width`. -/
def padded (width n : Nat) : List Char :=
  let digits := Nat.toDigits 10 n
  List.replicate (width - digits.length) '0' ++ digits

/-- A year in at least four digits, with a sign unless it is from 0 to 9999. -/
def yearText (year : Int) : List Char :=
  if 0 ≤ year ∧ year ≤ 9999 then padded 4 year.natAbs
  else (if year < 0 then '-' else '+') :: padded 4 year.natAbs

/-- The instant in UTC to the millisecond. A leap second has the number after the second that it
follows, which is 60 at the end of a minute. -/
def Instant.text (t : Instant) : List Char :=
  let date := Date.ofDay (t.seconds / 86400)
  let second := (t.seconds % 86400).toNat
  yearText date.year ++ '-' :: padded 2 date.month ++ '-' :: padded 2 date.day ++
    'T' :: padded 2 (second / 3600) ++ ':' :: padded 2 (second / 60 % 60) ++
    ':' :: padded 2 (second % 60 + t.nanos / 1000000000) ++
    '.' :: padded 3 (t.nanos % 1000000000 / 1000000) ++ ['Z']

end Rebac.Calendar
