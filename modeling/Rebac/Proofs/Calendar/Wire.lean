import Mathlib.Data.List.Basic
import Rebac.Calendar.Instant
import Rebac.Proofs.Calendar.Gregorian
import Rebac.Proofs.Text.Digit

/-!
# The text of an instant

A reader of the text, by the Gregorian calendar and a clock whose minutes may have a second 60. It
gives back the instant to the millisecond, if a leap second only ends a minute. While years have
four digits, later instants of this kind have later texts. A leap second after another second has
the text of the next second, and is read as that one.
-/

namespace Rebac.Calendar

open Text

/-! ## Fields of digits -/

section padded

variable {width n m : Nat}

theorem isDecimal_padded : IsDecimal (padded width n) :=
  isDecimal_append.2 ⟨isDecimal_zeros _, isDecimal_toDigits n⟩

theorem padded_ne_nil : padded width n ≠ [] :=
  List.append_ne_nil_of_right_ne_nil _ Nat.toDigits_ne_nil

theorem length_padded (pos : 0 < width) (fits : n < 10 ^ width) :
    (padded width n).length = width := by
  have digits := (Nat.length_toDigits_le_iff (by decide) pos).2 fits
  simp only [padded, List.length_append, List.length_replicate]
  omega

theorem ofDigitChars_padded : Nat.ofDigitChars 10 (padded width n) 0 = n := by
  rw [padded, Nat.ofDigitChars_append, Nat.ofDigitChars_replicate_zero, Nat.mul_zero,
    Nat.ofDigitChars_ten_toDigits]

theorem readNat?_padded : readNat? 10 digit? (padded width n) = some n := by
  rw [readNat?_decimal padded_ne_nil isDecimal_padded, ofDigitChars_padded]

/-- Fields of one width are in the order of their numbers, and of what follows them where these are
the same. -/
theorem padded_append_lt {x y : List Char} (pos : 0 < width) (fits : n < 10 ^ width)
    (fits' : m < 10 ^ width) (before : n < m ∨ n = m ∧ x < y) :
    padded width n ++ x < padded width m ++ y := by
  rcases before with less | ⟨rfl, rest⟩
  · refine append_lt_append isDecimal_padded isDecimal_padded ?_ ?_
    · rw [length_padded pos fits, length_padded pos fits']
    · rwa [ofDigitChars_padded, ofDigitChars_padded]
  · exact List.append_left_lt rest

end padded

/-- A number of a width and the mark after it, at the start of a text. -/
def field? (width : Nat) (mark : Char) (cs : List Char) : Option (Nat × List Char) := do
  let n ← readNat? 10 digit? (cs.take width)
  match cs.drop width with
  | c :: rest => if c = mark then some (n, rest) else none
  | [] => none

theorem field?_append {cs : List Char} {n : Nat} (mark : Char) (rest : List Char)
    (read : readNat? 10 digit? cs = some n) :
    field? cs.length mark (cs ++ mark :: rest) = some (n, rest) := by
  rw [field?, List.take_left, List.drop_left, read]
  exact if_pos rfl

/-- A field of fixed width is read up to its mark, and has its number, if that fits the width. -/
theorem field?_padded {width n : Nat} (mark : Char) (rest : List Char) (pos : 0 < width)
    (fits : n < 10 ^ width) :
    field? width mark (padded width n ++ mark :: rest) = some (n, rest) := by
  have read : field? (padded width n).length mark (padded width n ++ mark :: rest) =
      some (n, rest) := field?_append mark rest readNat?_padded
  rwa [length_padded pos fits] at read

/-! ## Years -/

/-- The sign that a text may start with, and the rest. -/
def splitSign : List Char → Int × List Char
  | '-' :: cs => (-1, cs)
  | '+' :: cs => (1, cs)
  | cs => (1, cs)

/-- A year with the mark after it. Its digits may have a sign in front. -/
def year? (cs : List Char) : Option (Int × List Char) := do
  let (sign, digits) := splitSign cs
  let (n, rest) ← field? (digits.takeWhile Char.isDigit).length '-' digits
  return (sign * n, rest)

theorem splitSign_decimal {cs : List Char} (nonempty : cs ≠ []) (digits : IsDecimal cs)
    (rest : List Char) : splitSign (cs ++ rest) = (1, cs ++ rest) := by
  cases cs with
  | nil => exact absurd rfl nonempty
  | cons c cs =>
    have digit := (isDecimal_cons.1 digits).1
    rw [List.cons_append, splitSign.eq_3]
    · rintro _ eq
      cases eq
      exact absurd digit (by decide)
    · rintro _ eq
      cases eq
      exact absurd digit (by decide)

theorem year?_of_splitSign {cs : List Char} {sign : Int} {width n : Nat} {rest : List Char}
    (split : splitSign cs = (sign, padded width n ++ '-' :: rest)) :
    year? cs = some (sign * n, rest) := by
  have digits : (padded width n ++ '-' :: rest).takeWhile Char.isDigit = padded width n := by
    rw [List.takeWhile_append_of_pos isDecimal_padded]
    exact List.append_nil _
  rw [year?, split]
  simp only [digits, field?_append _ _ readNat?_padded]
  rfl

/-- Years of up to four digits are written without a sign and the others with one. Each is read
back. -/
theorem year?_yearText (year : Int) (rest : List Char) :
    year? (yearText year ++ '-' :: rest) = some (year, rest) := by
  have splitsTo : ∃ sign : Int, sign * year.natAbs = year ∧
      splitSign (yearText year ++ '-' :: rest) = (sign, padded 4 year.natAbs ++ '-' :: rest) := by
    unfold yearText
    split
    · exact ⟨1, by omega, splitSign_decimal padded_ne_nil isDecimal_padded _⟩
    · split
      · exact ⟨-1, by omega, rfl⟩
      · exact ⟨1, by omega, rfl⟩
  obtain ⟨sign, same, split⟩ := splitsTo
  rw [year?_of_splitSign split, same]

/-! ## Dates and clocks -/

instance (d : Date) : Decidable d.IsValid :=
  decidable_of_iff
    (1 ≤ d.month ∧ d.month ≤ 12 ∧ 1 ≤ d.day ∧ d.day ≤ monthLength d.year d.month)
    ⟨fun ⟨month_pos, month_le, day_pos, day_le⟩ => ⟨month_pos, month_le, day_pos, day_le⟩,
      fun valid => ⟨valid.month_pos, valid.month_le, valid.day_pos, valid.day_le⟩⟩

/-- A date as it is in the text of an instant. -/
def Date.text (d : Date) : List Char :=
  yearText d.year ++ '-' :: padded 2 d.month ++ '-' :: padded 2 d.day

/-- A date with the mark after it. -/
def Date.ofText? (cs : List Char) : Option (Date × List Char) := do
  let (year, cs) ← year? cs
  let (month, cs) ← field? 2 '-' cs
  let (day, cs) ← field? 2 'T' cs
  return (⟨year, month, day⟩, cs)

/-- What a clock shows. -/
structure Clock where
  hour : Nat
  minute : Nat
  second : Nat
  milli : Nat

namespace Clock

/-- What a clock can show. A minute may end with a leap second. -/
structure IsValid (c : Clock) : Prop where
  hour_lt : c.hour < 24
  minute_lt : c.minute < 60
  second_le : c.second ≤ 60
  milli_lt : c.milli < 1000

instance (c : Clock) : Decidable c.IsValid :=
  decidable_of_iff (c.hour < 24 ∧ c.minute < 60 ∧ c.second ≤ 60 ∧ c.milli < 1000)
    ⟨fun ⟨hour_lt, minute_lt, second_le, milli_lt⟩ => ⟨hour_lt, minute_lt, second_le, milli_lt⟩,
      fun valid => ⟨valid.hour_lt, valid.minute_lt, valid.second_le, valid.milli_lt⟩⟩

/-- A clock as it is in the text of an instant. -/
def text (c : Clock) : List Char :=
  padded 2 c.hour ++ ':' :: padded 2 c.minute ++ ':' :: padded 2 c.second ++
    '.' :: padded 3 c.milli ++ ['Z']

def ofText? (cs : List Char) : Option Clock := do
  let (hour, cs) ← field? 2 ':' cs
  let (minute, cs) ← field? 2 ':' cs
  let (second, cs) ← field? 2 '.' cs
  let (milli, cs) ← field? 3 'Z' cs
  guard (cs = [])
  return ⟨hour, minute, second, milli⟩

/-- Of two clocks, the one that shows less. -/
def Before (c c' : Clock) : Prop :=
  c.hour < c'.hour ∨ c.hour = c'.hour ∧ (c.minute < c'.minute ∨ c.minute = c'.minute ∧
    (c.second < c'.second ∨ c.second = c'.second ∧ c.milli < c'.milli))

theorem ofText?_text {c : Clock} (valid : c.IsValid) : ofText? c.text = some c := by
  obtain ⟨hour_lt, minute_lt, second_le, milli_lt⟩ := valid
  have hour : c.hour < 100 := by omega
  have minute : c.minute < 100 := by omega
  have second : c.second < 100 := by omega
  simp [text, ofText?, field?_padded, hour, minute, second, milli_lt, guard]

theorem text_lt_text {c c' : Clock} (valid : c.IsValid) (valid' : c'.IsValid)
    (before : c.Before c') : c.text < c'.text := by
  have := valid.second_le
  have := valid'.second_le
  simp only [text, List.append_assoc, List.cons_append]
  refine padded_append_lt (by decide) (valid.hour_lt.trans (by decide))
    (valid'.hour_lt.trans (by decide)) (before.imp_right (And.imp_right fun before => ?_))
  refine List.cons_lt_cons_iff.2 (.inr ⟨rfl, ?_⟩)
  refine padded_append_lt (by decide) (valid.minute_lt.trans (by decide))
    (valid'.minute_lt.trans (by decide)) (before.imp_right (And.imp_right fun before => ?_))
  refine List.cons_lt_cons_iff.2 (.inr ⟨rfl, ?_⟩)
  refine padded_append_lt (by decide) (by omega) (by omega)
    (before.imp_right (And.imp_right fun less => ?_))
  refine List.cons_lt_cons_iff.2 (.inr ⟨rfl, ?_⟩)
  exact padded_append_lt (by decide) valid.milli_lt valid'.milli_lt (.inl less)

end Clock

namespace Date

theorem IsValid.day_lt {d : Date} (valid : d.IsValid) : d.day < 100 := by
  have length : monthLength d.year d.month ≤ 31 := by
    unfold monthLength
    split_ifs <;> decide
  exact (valid.day_le.trans length).trans_lt (by decide)

theorem ofText?_text {d : Date} (valid : d.IsValid) (rest : List Char) :
    ofText? (d.text ++ 'T' :: rest) = some (d, rest) := by
  have month : d.month < 100 := valid.month_le.trans_lt (by decide)
  simp [text, ofText?, year?_yearText, field?_padded, month, valid.day_lt]

/-- Dates with years of four digits are in the order of their texts, and of what follows them where
these are the same. -/
theorem text_append_lt {d d' : Date} {x y : List Char} (valid : d.IsValid) (valid' : d'.IsValid)
    (year : 0 ≤ d.year ∧ d.year ≤ 9999) (year' : 0 ≤ d'.year ∧ d'.year ≤ 9999)
    (before : d.Before d' ∨ d = d' ∧ x < y) : d.text ++ x < d'.text ++ y := by
  rcases before with before | ⟨rfl, rest⟩
  · have := valid.month_le
    have := valid'.month_le
    simp only [text, yearText, year, year', and_self, if_true, List.append_assoc, List.cons_append]
    refine padded_append_lt (by decide) (by omega) (by omega)
      (before.imp (by omega) (And.imp (congrArg Int.natAbs) fun before => ?_))
    refine List.cons_lt_cons_iff.2 (.inr ⟨rfl, ?_⟩)
    refine padded_append_lt (by decide) (by omega) (by omega)
      (before.imp_right (And.imp_right fun less => ?_))
    refine List.cons_lt_cons_iff.2 (.inr ⟨rfl, ?_⟩)
    exact padded_append_lt (by decide) valid.day_lt valid'.day_lt (.inl less)
  · exact List.append_left_lt rest

end Date

/-! ## Instants -/

namespace Instant

/-- The date at an instant. -/
def date (t : Instant) : Date := .ofDay (t.seconds / 86400)

/-- What a clock shows at an instant. -/
def clock (t : Instant) : Clock where
  hour := (t.seconds % 86400).toNat / 3600
  minute := (t.seconds % 86400).toNat / 60 % 60
  second := (t.seconds % 86400).toNat % 60 + t.nanos / 1000000000
  milli := t.nanos % 1000000000 / 1000000

/-- The instant at which a clock shows this on a date. Second 60 goes on from second 59. -/
def at? (d : Date) (c : Clock) : Option Instant :=
  if d.IsValid ∧ c.IsValid then
    ofUnix? (d.number * 86400 + (c.hour * 3600 + c.minute * 60 + min c.second 59 : Nat))
      (c.milli * 1000000 + if c.second = 60 then 1000000000 else 0)
  else none

/-- The instant that a text tells. -/
def ofText? (cs : List Char) : Option Instant := do
  let (d, cs) ← Date.ofText? cs
  at? d (← Clock.ofText? cs)

theorem text_eq (t : Instant) : t.text = t.date.text ++ 'T' :: t.clock.text := by
  simp [text, Date.text, Clock.text, date, clock]

theorem nanos_lt (t : Instant) : t.nanos < 2000000000 := by
  have valid := t.valid
  simp only [isInstant, Bool.and_eq_true, decide_eq_true_eq] at valid
  exact valid.2

theorem date_isValid (t : Instant) : t.date.IsValid := (Date.ofDay_spec _).1

theorem clock_isValid (t : Instant) : t.clock.IsValid := by
  have nanos := t.nanos_lt
  constructor <;> simp only [clock] <;> omega

/-- An instant that is in no leap second, or in one after a second 59. -/
def IsRegular (t : Instant) : Prop := t.nanos < 1000000000 ∨ t.seconds % 60 = 59

instance (t : Instant) : Decidable t.IsRegular :=
  inferInstanceAs (Decidable (t.nanos < 1000000000 ∨ t.seconds % 60 = 59))

/-- The regular instant with the text of an instant. A leap second that does not end a minute is
taken for the second that comes after it. -/
def settled (t : Instant) : Instant where
  seconds := if t.IsRegular then t.seconds else t.seconds + 1
  nanos := if t.IsRegular then t.nanos else t.nanos - 1000000000
  valid := by
    split
    · exact t.valid
    · next leap =>
      have day : (t.seconds + 1) / 86400 = t.seconds / 86400 := by
        simp only [IsRegular, not_or] at leap
        omega
      have valid := t.valid
      simp only [isInstant, Bool.and_eq_true, decide_eq_true_eq] at valid ⊢
      rw [day]
      exact ⟨valid.1, by omega⟩

theorem settled_of_isRegular {t : Instant} (regular : t.IsRegular) : t.settled = t := by
  simp only [settled, if_pos regular]

/-- A leap second settles as the second after it, less the whole second that it is over. -/
theorem settled_of_leap {t : Instant} (leap : ¬ t.IsRegular) :
    t.settled.seconds = t.seconds + 1 ∧ t.settled.nanos + 1000000000 = t.nanos := by
  have rest : t.settled.nanos = t.nanos - 1000000000 := if_neg leap
  refine ⟨if_neg leap, ?_⟩
  rw [rest]
  simp only [IsRegular, not_or] at leap
  omega

/-- The instant on the wire is never a leap second. -/
theorem settled_isRegular (t : Instant) : t.settled.IsRegular := by
  by_cases regular : t.IsRegular
  · rw [settled_of_isRegular regular]
    exact regular
  · have nanos := t.nanos_lt
    have settled := settled_of_leap regular
    exact .inl (by omega)

/-- The text of a leap second goes on counting, and its seconds are less than 60 unless it ends a
minute. So it shows what the next second shows. -/
theorem text_settled (t : Instant) : t.settled.text = t.text := by
  by_cases regular : t.IsRegular
  · rw [settled_of_isRegular regular]
  · have nanos := t.nanos_lt
    obtain ⟨seconds, rest⟩ := settled_of_leap regular
    simp only [IsRegular, not_or] at regular
    have day : t.settled.seconds / 86400 = t.seconds / 86400 := by omega
    have hour : (t.settled.seconds % 86400).toNat / 3600 =
        (t.seconds % 86400).toNat / 3600 := by omega
    have minute : (t.settled.seconds % 86400).toNat / 60 % 60 =
        (t.seconds % 86400).toNat / 60 % 60 := by omega
    have second : (t.settled.seconds % 86400).toNat % 60 + t.settled.nanos / 1000000000 =
        (t.seconds % 86400).toNat % 60 + t.nanos / 1000000000 := by omega
    have milli : t.settled.nanos % 1000000000 / 1000000 =
        t.nanos % 1000000000 / 1000000 := by omega
    rw [text, text]
    simp only [day, hour, minute, second, milli]

/-- The instant without what is less than a millisecond. -/
def truncated (t : Instant) : Instant where
  seconds := t.seconds
  nanos := t.nanos / 1000000 * 1000000
  valid := by
    have valid := t.valid
    simp only [isInstant, Bool.and_eq_true, decide_eq_true_eq] at valid ⊢
    exact ⟨valid.1, by omega⟩

/-- The date and the clock give a regular instant to the millisecond. -/
theorem at?_date_clock {t : Instant} (regular : t.IsRegular) :
    at? t.date t.clock = some t.truncated := by
  have nanos := t.nanos_lt
  have number : t.date.number = t.seconds / 86400 := (Date.ofDay_spec _).2
  have seconds : t.date.number * 86400 +
      (t.clock.hour * 3600 + t.clock.minute * 60 + min t.clock.second 59 : Nat) = t.seconds := by
    simp only [IsRegular] at regular
    simp only [number, clock]
    omega
  have milli : t.clock.milli * 1000000 + (if t.clock.second = 60 then 1000000000 else 0) =
      t.nanos / 1000000 * 1000000 := by
    have leap : t.clock.second = 60 ↔ 1000000000 ≤ t.nanos := by
      simp only [IsRegular] at regular
      simp only [clock]
      omega
    simp only [leap]
    split <;> simp only [clock] <;> omega
  have counted : t.nanos / 1000000 * 1000000 < 1000000000 ∨ secondOfMinute t.seconds = 59 :=
    regular.imp_left (by omega)
  have valid : isInstant t.seconds (t.nanos / 1000000 * 1000000) = true := t.truncated.valid
  rw [at?, if_pos ⟨t.date_isValid, t.clock_isValid⟩, seconds, milli, ofUnix?, dif_pos valid,
    if_pos counted]
  rfl

/-- Reading the text of a regular instant gives the instant to the millisecond. -/
theorem ofText?_of_isRegular {t : Instant} (regular : t.IsRegular) :
    ofText? t.text = some t.truncated := by
  rw [text_eq, ofText?, Date.ofText?_text t.date_isValid]
  simp only [Option.bind_eq_bind, Option.bind_some, Clock.ofText?_text t.clock_isValid,
    at?_date_clock regular]

/-- Reading the text of any instant gives the regular one that has this text, to the millisecond. -/
theorem ofText?_text (t : Instant) : ofText? t.text = some t.settled.truncated := by
  rw [← text_settled]
  exact ofText?_of_isRegular t.settled_isRegular

/-- Of two instants, the earlier one. -/
def Before (t t' : Instant) : Prop :=
  t.seconds < t'.seconds ∨ t.seconds = t'.seconds ∧ t.nanos < t'.nanos

/-- An earlier instant of a day has a clock that shows no more, if it is regular. A leap second that
ends no minute runs ahead of the second after it. -/
theorem clock_of_before {t t' : Instant} (regular : t.IsRegular)
    (day : t.seconds / 86400 = t'.seconds / 86400) (before : t.Before t') :
    t.clock.Before t'.clock ∨ t.clock = t'.clock := by
  have nanos := t.nanos_lt
  unfold IsRegular at regular
  have seconds : t.seconds % 60 = (t.seconds % 86400).toNat % 60 := by omega
  have later : (t.seconds % 86400).toNat < (t'.seconds % 86400).toNat ∨
      (t.seconds % 86400).toNat = (t'.seconds % 86400).toNat ∧ t.nanos < t'.nanos := by
    unfold Before at before
    omega
  rw [seconds] at regular
  simp only [Clock.Before, clock, Clock.mk.injEq]
  generalize (t.seconds % 86400).toNat = s at *
  generalize (t'.seconds % 86400).toNat = s' at *
  clear seconds before day
  have hour : s / 3600 ≤ s' / 3600 := Nat.div_le_div_right (by omega)
  rcases hour.lt_or_eq with hour | hour
  · exact .inl (.inl hour)
  have minute : s / 60 % 60 ≤ s' / 60 % 60 := by omega
  rcases minute.lt_or_eq with minute | minute
  · exact .inl (.inr ⟨hour, .inl minute⟩)
  -- A leap second goes on from the last second of its minute.
  have second : s % 60 + t.nanos / 1000000000 ≤ s' % 60 + t'.nanos / 1000000000 := by omega
  rcases second.lt_or_eq with second | second
  · exact .inl (.inr ⟨hour, .inr ⟨minute, .inl second⟩⟩)
  have milli : t.nanos % 1000000000 / 1000000 ≤ t'.nanos % 1000000000 / 1000000 := by omega
  rcases milli.lt_or_eq with milli | milli
  · exact .inl (.inr ⟨hour, .inr ⟨minute, .inr ⟨second, milli⟩⟩⟩)
  · exact .inr ⟨hour, minute, second, milli⟩

/-- An earlier instant has an earlier date, or the same date and a clock that shows no more. -/
theorem date_clock_of_before {t t' : Instant} (regular : t.IsRegular)
    (before : t.Before t') :
    t.date.Before t'.date ∨ t.date = t'.date ∧ (t.clock.Before t'.clock ∨ t.clock = t'.clock) := by
  by_cases day : t.seconds / 86400 < t'.seconds / 86400
  · refine .inl ((Date.before_iff_number_lt t.date_isValid t'.date_isValid).2 ?_)
    rwa [date, date, (Date.ofDay_spec _).2, (Date.ofDay_spec _).2]
  · have same : t.seconds / 86400 = t'.seconds / 86400 := by
      unfold Before at before
      omega
    exact .inr ⟨congrArg Date.ofDay same, clock_of_before regular same before⟩

/-- While years have four digits, a regular instant has no greater text than a later one. -/
theorem not_text_lt_text {t t' : Instant} (regular : t.IsRegular)
    (year : 0 ≤ t.date.year ∧ t.date.year ≤ 9999)
    (year' : 0 ≤ t'.date.year ∧ t'.date.year ≤ 9999) (before : t.Before t') :
    ¬ t'.text < t.text := by
  rw [text_eq, text_eq]
  rcases date_clock_of_before regular before with earlier | ⟨sameDate, earlier | sameClock⟩
  · exact List.lt_asymm
      (Date.text_append_lt t.date_isValid t'.date_isValid year year' (.inl earlier))
  · refine List.lt_asymm (Date.text_append_lt t.date_isValid t'.date_isValid year year'
      (.inr ⟨sameDate, List.cons_lt_cons_iff.2 (.inr ⟨rfl, ?_⟩)⟩))
    exact Clock.text_lt_text t.clock_isValid t'.clock_isValid earlier
  · rw [sameDate, sameClock]
    exact List.lt_irrefl _

end Instant

end Rebac.Calendar
