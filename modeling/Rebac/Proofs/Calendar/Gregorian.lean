import Mathlib.Order.Monotone.Basic
import Mathlib.Tactic.IntervalCases
import Mathlib.Tactic.SplitIfs
import Rebac.Calendar.Date

/-!
# The Gregorian calendar

The rule of leap years and the lengths of the months, carried on to all years before and after. Each
day has the date that these give it, so dates and days are in the same order.
-/

namespace Rebac.Calendar

/-! ## Years and months -/

/-- Every fourth year is a leap year, but of the last years of centuries only every fourth. -/
def isLeap (year : Int) : Bool := year % 4 = 0 ∧ (year % 100 ≠ 0 ∨ year % 400 = 0)

/-- The days of a month. -/
def monthLength (year : Int) (month : Nat) : Nat :=
  if month = 2 then (if isLeap year then 29 else 28)
  else if month ∈ [4, 6, 9, 11] then 30
  else 31

/-- The days from the start of year 0 to that of a year: 365 for each, and one for each leap
year. -/
def yearStart (year : Int) : Int :=
  365 * year + (year + 3) / 4 - (year + 99) / 100 + (year + 399) / 400

/-- The days from the start of a year to that of a month. -/
def monthStart (year : Int) (month : Nat) : Nat :=
  ((List.range' 1 (month - 1)).map (monthLength year)).sum

/-- A day that the calendar has. -/
structure Date.IsValid (d : Date) : Prop where
  month_pos : 1 ≤ d.month
  month_le : d.month ≤ 12
  day_pos : 1 ≤ d.day
  day_le : d.day ≤ monthLength d.year d.month

/-- The days from 1 January 1970 to a date. -/
def Date.number (d : Date) : Int :=
  yearStart d.year - yearStart 1970 + monthStart d.year d.month + (d.day - 1 : Nat)

theorem Date.isValid_mk {year : Int} {month day : Nat} (month_pos : 1 ≤ month)
    (month_le : month ≤ 12) (day_pos : 1 ≤ day) (day_le : day ≤ monthLength year month) :
    IsValid ⟨year, month, day⟩ :=
  ⟨month_pos, month_le, day_pos, day_le⟩

theorem Date.number_mk (year : Int) (month day : Nat) :
    number ⟨year, month, day⟩ =
      yearStart year - yearStart 1970 + monthStart year month + (day - 1 : Nat) := rfl

theorem isLeap_iff {year : Int} :
    isLeap year = true ↔ year % 4 = 0 ∧ (year % 100 ≠ 0 ∨ year % 400 = 0) := by
  simp [isLeap]

theorem yearStart_succ (year : Int) :
    yearStart (year + 1) = yearStart year + if isLeap year then 366 else 365 := by
  have fourth : (year + 1 + 3) / 4 = (year + 3) / 4 + if year % 4 = 0 then 1 else 0 := by
    split <;> omega
  have century :
      (year + 1 + 99) / 100 = (year + 99) / 100 + if year % 100 = 0 then 1 else 0 := by
    split <;> omega
  have era : (year + 1 + 399) / 400 = (year + 399) / 400 + if year % 400 = 0 then 1 else 0 := by
    split <;> omega
  have inside : year % 400 = 0 → year % 100 = 0 := by omega
  have inside' : year % 100 = 0 → year % 4 = 0 := by omega
  simp only [yearStart, fourth, century, era, isLeap_iff]
  split_ifs <;> omega

theorem monthStart_succ (year : Int) {month : Nat} (pos : 1 ≤ month) :
    monthStart year (month + 1) = monthStart year month + monthLength year month := by
  obtain ⟨before, rfl⟩ : ∃ n, month = n + 1 := ⟨month - 1, by omega⟩
  simp [monthStart, List.range'_1_concat, Nat.add_comm 1]

theorem monthStart_mono (year : Int) {month month' : Nat} (pos : 1 ≤ month)
    (earlier : month < month') :
    monthStart year month + monthLength year month ≤ monthStart year month' := by
  induction month', earlier using Nat.le_induction with
  | base => exact (monthStart_succ year pos).ge
  | succ later le ih =>
    rw [monthStart_succ year (by omega)]
    omega

/-- All the months make up the year. -/
theorem monthStart_thirteen (year : Int) :
    (monthStart year 13 : Int) = if isLeap year then 366 else 365 := by
  unfold monthStart monthLength
  cases isLeap year <;> decide

/-! ## Days in order -/

theorem yearStart_lt {year year' : Int} (earlier : year < year') :
    yearStart (year + 1) ≤ yearStart year' := by
  induction year', earlier using Int.leInduction with
  | base => exact le_rfl
  | succ later le ih =>
    rw [yearStart_succ later]
    split <;> omega

namespace Date

/-- Years, months and days decide in this order which of two dates is earlier. -/
def Before (d d' : Date) : Prop :=
  d.year < d'.year ∨
    d.year = d'.year ∧ (d.month < d'.month ∨ d.month = d'.month ∧ d.day < d'.day)

/-- The day of a date within its year. -/
theorem IsValid.dayOfYear_lt {d : Date} (valid : d.IsValid) :
    (monthStart d.year d.month + (d.day - 1 : Nat) : Int) < if isLeap d.year then 366 else 365 := by
  rw [← monthStart_thirteen]
  have within : monthStart d.year d.month + monthLength d.year d.month ≤ monthStart d.year 13 :=
    monthStart_mono d.year valid.month_pos (Nat.lt_succ_of_le valid.month_le)
  have := valid.day_pos
  have := valid.day_le
  omega

/-- The numbers of dates are in the order of the dates. -/
theorem number_lt_number {d d' : Date} (valid : d.IsValid) (before : d.Before d') :
    d.number < d'.number := by
  have day_pos := valid.day_pos
  have day_le := valid.day_le
  unfold number
  rcases before with year | ⟨year, month | ⟨month, day⟩⟩
  · have start := yearStart_lt year
    rw [yearStart_succ] at start
    have within := valid.dayOfYear_lt
    omega
  · have start := monthStart_mono d.year valid.month_pos month
    rw [← year]
    omega
  · rw [← year, ← month]
    omega

theorem before_trichotomy (d d' : Date) : d.Before d' ∨ d = d' ∨ d'.Before d := by
  obtain ⟨year, month, day⟩ := d
  obtain ⟨year', month', day'⟩ := d'
  simp only [Before, mk.injEq]
  omega

/-- The calendar is in the order of its day numbers. -/
theorem before_iff_number_lt {d d' : Date} (valid : d.IsValid) (valid' : d'.IsValid) :
    d.Before d' ↔ d.number < d'.number := by
  refine ⟨number_lt_number valid, fun lt => ?_⟩
  rcases before_trichotomy d d' with before | rfl | after
  · exact before
  · exact absurd lt (lt_irrefl _)
  · exact absurd (number_lt_number valid' after) (lt_asymm lt)

/-- Only one date of the calendar has a number. -/
theorem number_inj {d d' : Date} (valid : d.IsValid) (valid' : d'.IsValid) :
    d.number = d'.number ↔ d = d' := by
  refine ⟨fun same => ?_, congrArg number⟩
  rcases before_trichotomy d d' with before | same' | after
  · exact absurd same (number_lt_number valid before).ne
  · exact same'
  · exact absurd same (number_lt_number valid' after).ne'

end Date

/-! ## The date of a day -/

/-- The days of an era that are not the extra days of its leap years. -/
def plainDays (dayOfEra : Nat) : Nat :=
  dayOfEra - dayOfEra / 1460 + dayOfEra / 36524 - dayOfEra / 146096

theorem plainDays_mono : Monotone plainDays := by
  refine monotone_nat_of_le_succ fun n => ?_
  unfold plainDays
  omega

/-- The day of an era after a year. The last year of an era has a leap day. -/
def yearEnd (yearOfEra : Nat) : Nat :=
  if yearOfEra = 399 then eraDays else daysBeforeYear (yearOfEra + 1)

theorem plainDays_start : ∀ y < 400, 365 * y ≤ plainDays (daysBeforeYear y) := by
  decide +kernel

theorem plainDays_end : ∀ y < 400, plainDays (yearEnd y - 1) < 365 * (y + 1) := by
  decide +kernel

/-- The year of a day is the one that it is in. -/
theorem yearOfEra_spec {dayOfEra : Nat} (inside : dayOfEra < eraDays) :
    yearOfEra dayOfEra < 400 ∧ daysBeforeYear (yearOfEra dayOfEra) ≤ dayOfEra ∧
      dayOfEra < yearEnd (yearOfEra dayOfEra) := by
  have eq : yearOfEra dayOfEra = plainDays dayOfEra / 365 := rfl
  have last : plainDays dayOfEra < 365 * (399 + 1) :=
    (plainDays_mono (Nat.le_sub_one_of_lt inside)).trans_lt (plainDays_end 399 (by decide))
  have year : yearOfEra dayOfEra < 400 := by omega
  refine ⟨year, ?_, ?_⟩
  · by_contra before
    obtain ⟨y, same⟩ : ∃ y, yearOfEra dayOfEra = y + 1 := by
      cases found : yearOfEra dayOfEra with
      | zero => exact absurd (found ▸ Nat.zero_le _) before
      | succ y => exact ⟨y, rfl⟩
    have ends : yearEnd y = daysBeforeYear (y + 1) := if_neg (by omega)
    have early : dayOfEra ≤ yearEnd y - 1 := by
      rw [ends, ← same]
      omega
    have := (plainDays_mono early).trans_lt (plainDays_end y (by omega))
    omega
  · unfold yearEnd
    split
    · exact inside
    next inner =>
      by_contra after
      have := (plainDays_start (yearOfEra dayOfEra + 1) (by omega)).trans
        (plainDays_mono (Nat.le_of_not_lt after))
      omega

/-- The month of a day of a year that starts in March. -/
structure MonthSpec (dayOfYear month : Nat) : Prop where
  month_lt : month < 12
  start_le : daysBeforeMonth month ≤ dayOfYear
  lt_end : dayOfYear < daysBeforeMonth (month + 1)

/-- The month of a day, with years from March on. The lengths of the months follow the line of 153
days in five of them. -/
theorem monthSpec {dayOfYear : Nat} (inside : dayOfYear < 366) :
    MonthSpec dayOfYear ((5 * dayOfYear + 2) / 153) where
  month_lt := by omega
  start_le := by
    unfold daysBeforeMonth
    omega
  lt_end := by
    unfold daysBeforeMonth
    omega

theorem monthStart_fromMarch (year : Int) {month : Nat} (inside : month < 10) :
    monthStart year (month + 3) = daysBeforeMonth month + (if isLeap year then 60 else 59) := by
  unfold monthStart monthLength daysBeforeMonth
  cases isLeap year <;> interval_cases month <;> decide

theorem monthLength_fromMarch (year : Int) {month : Nat} (inside : month < 10) :
    monthLength year (month + 3) = daysBeforeMonth (month + 1) - daysBeforeMonth month := by
  unfold monthLength daysBeforeMonth
  interval_cases month <;> simp

namespace Date

/-- The date of a day of a year that starts in March. -/
def ofMarch (year : Int) (dayOfYear : Nat) : Date :=
  let month := (5 * dayOfYear + 2) / 153
  let day := dayOfYear - daysBeforeMonth month + 1
  if month < 10 then ⟨year, month + 3, day⟩ else ⟨year + 1, month - 9, day⟩

/-- The date of a day in a year that starts in March is valid, and has the number of that day. -/
theorem ofMarch_spec (year : Int) {dayOfYear : Nat}
    (inside : dayOfYear < if isLeap (year + 1) then 366 else 365) :
    (ofMarch year dayOfYear).IsValid ∧
      (ofMarch year dayOfYear).number =
        yearStart year + (if isLeap year then 60 else 59) - yearStart 1970 + dayOfYear := by
  have bound : dayOfYear < 366 := by split at inside <;> omega
  have spec := monthSpec bound
  unfold ofMarch
  generalize (5 * dayOfYear + 2) / 153 = month at spec
  obtain ⟨month_lt, start_le, lt_end⟩ := spec
  dsimp only
  split
  next early =>
    have length := monthLength_fromMarch year early
    refine ⟨isValid_mk (by omega) (by omega) (by omega) (by omega), ?_⟩
    rw [number_mk, monthStart_fromMarch year early]
    split <;> omega
  next late =>
    -- January and February are counted with the year before.
    have before : daysBeforeMonth 10 = 306 := rfl
    have before' : daysBeforeMonth 11 = 337 := rfl
    obtain rfl | rfl : month = 10 ∨ month = 11 := by omega
    · have january : monthLength (year + 1) 1 = 31 := by simp [monthLength]
      have start : monthStart (year + 1) 1 = 0 := rfl
      refine ⟨isValid_mk (by omega) (by omega) (by omega) ?_, ?_⟩
      · rw [january]
        change _ < daysBeforeMonth 11 at lt_end
        omega
      · rw [number_mk, yearStart_succ, start]
        split <;> omega
    · have february : monthLength (year + 1) 2 = if isLeap (year + 1) then 29 else 28 := by
        simp [monthLength]
      have start : monthStart (year + 1) 2 = 31 := by simp [monthStart, monthLength]
      refine ⟨isValid_mk (by omega) (by omega) (by omega) ?_, ?_⟩
      · rw [february]
        split at inside <;> simp [*] <;> omega
      · rw [number_mk, yearStart_succ, start]
        split <;> omega

end Date

/-- Eras are alike. -/
theorem isLeap_era (era year : Int) : isLeap (era * 400 + year) = isLeap year := by
  rw [Bool.eq_iff_iff, isLeap_iff, isLeap_iff]
  omega

/-- An era has the same number of days wherever it starts, since leap years repeat after four
hundred years. -/
theorem yearStart_era (era year : Int) :
    yearStart (era * 400 + year) = era * eraDays + yearStart year := by
  have fourth : (era * 400 + year + 3) / 4 = era * 100 + (year + 3) / 4 := by omega
  have century : (era * 400 + year + 99) / 100 = era * 4 + (year + 99) / 100 := by omega
  have whole : (era * 400 + year + 399) / 400 = era + (year + 399) / 400 := by omega
  simp only [yearStart, fourth, century, whole, eraDays]
  omega

theorem yearStart_eq : ∀ y < 400,
    yearStart (y : Nat) + (if isLeap (y : Nat) then 60 else 59) =
      daysBeforeYear y + 60 := by
  decide +kernel

theorem yearEnd_eq : ∀ y < 400,
    yearEnd y = daysBeforeYear y + (if isLeap ((y : Nat) + 1) then 366 else 365) := by
  decide +kernel

namespace Date

/-- The date of a day is in the calendar and is the one of that number. -/
theorem ofDay_spec (n : Int) : (ofDay n).IsValid ∧ (ofDay n).number = n := by
  obtain ⟨era, dayOfEra, inside, day⟩ : ∃ (era : Int) (dayOfEra : Nat), dayOfEra < eraDays ∧
      n + epochOffset = era * eraDays + dayOfEra := by
    refine ⟨(n + epochOffset) / eraDays, ((n + epochOffset) % eraDays).toNat, ?_, ?_⟩ <;>
      unfold eraDays <;> omega
  have date : ofDay n = ofMarch (era * 400 + yearOfEra dayOfEra)
      (dayOfEra - daysBeforeYear (yearOfEra dayOfEra)) := by
    have era' : (n + epochOffset) / eraDays = era := by
      unfold eraDays at *
      omega
    have day' : ((n + epochOffset) % eraDays).toNat = dayOfEra := by
      unfold eraDays at *
      omega
    simp only [ofDay, era', day']
    rfl
  obtain ⟨yearLt, yearLe, yearEnds⟩ := yearOfEra_spec inside
  rw [date]
  generalize yearOfEra dayOfEra = year at *
  have start := yearStart_eq year yearLt
  rw [yearEnd_eq year yearLt] at yearEnds
  obtain ⟨valid, number⟩ := @ofMarch_spec (era * 400 + year) (dayOfEra - daysBeforeYear year) (by
    rw [add_assoc, isLeap_era]
    omega)
  refine ⟨valid, ?_⟩
  rw [number, isLeap_era, yearStart_era]
  have epoch : yearStart 1970 = 719528 := by decide
  have offset : epochOffset = 719468 := rfl
  omega

/-! ## The day of a date -/

/-- Counting by eras gives the number of a date. -/
theorem toDay_eq_number {d : Date} (valid : d.IsValid) : d.toDay = d.number := by
  obtain ⟨year, month, day⟩ := d
  obtain ⟨month_pos, month_le, day_pos, -⟩ := valid
  have epoch : yearStart 1970 = 719528 := by decide
  have offset : epochOffset = 719468 := rfl
  have eras : ∀ y : Int, yearStart y + (if isLeap y then 60 else 59) =
      y / 400 * eraDays + daysBeforeYear (y % 400).toNat + 60 := by
    intro y
    have start := yearStart_eq (y % 400).toNat (by omega)
    have split : y = y / 400 * 400 + ((y % 400).toNat : Nat) := by omega
    rw [split, isLeap_era, yearStart_era, ← split]
    omega
  rw [number_mk]
  simp only [toDay] at *
  split
  next early =>
    -- January and February are counted with the year before.
    have before := eras (year - 1)
    have next := yearStart_succ (year - 1)
    rw [sub_add_cancel] at next
    have january : monthStart year 1 = 0 := rfl
    have february : monthStart year 2 = 31 := by simp [monthStart, monthLength]
    have months : daysBeforeMonth (1 + 9) = 306 ∧ daysBeforeMonth (2 + 9) = 337 := ⟨rfl, rfl⟩
    have within : month = 1 ∨ month = 2 := by omega
    cases leap : isLeap (year - 1) with
    | false =>
      simp only [leap, Bool.false_eq_true, reduceIte] at before next
      rcases within with rfl | rfl <;> omega
    | true =>
      simp only [leap, reduceIte] at before next
      rcases within with rfl | rfl <;> omega
  next late =>
    have same := eras year
    obtain ⟨march, rfl⟩ : ∃ n, month = n + 3 := ⟨month - 3, by omega⟩
    rw [monthStart_fromMarch year (by omega), Nat.add_sub_cancel]
    cases leap : isLeap year with
    | false =>
      simp only [leap, Bool.false_eq_true, reduceIte] at same ⊢
      omega
    | true =>
      simp only [leap, reduceIte] at same ⊢
      omega

/-- From a day number to its date and back. With `ofDay_toDay`, dates and day numbers are the same
thing. -/
theorem toDay_ofDay (n : Int) : (ofDay n).toDay = n := by
  obtain ⟨valid, number⟩ := ofDay_spec n
  rw [toDay_eq_number valid, number]

/-- From a date to its day number and back, for the dates there are. -/
theorem ofDay_toDay {d : Date} (valid : d.IsValid) : ofDay d.toDay = d := by
  obtain ⟨valid', number⟩ := ofDay_spec d.toDay
  refine (number_inj valid' valid).1 ?_
  rw [number, toDay_eq_number valid]

end Date

end Rebac.Calendar
