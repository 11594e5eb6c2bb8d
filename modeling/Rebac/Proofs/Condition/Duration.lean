import Rebac.Condition.Value
import Rebac.Proofs.Decimal.Numeral

/-!
# Spans as values

The form in which a span is sent is a plain numeral of its seconds. The numeral is the shortest one
of the rounded sum of the whole seconds and the rounded fraction, so it denotes the span itself just
where this sum is the number nearest to the span.
-/

namespace Rebac.Condition

open Calendar (Span)
open Decimal Decimal.Magnitude

/-- The seconds that a sent value tells: a plain numeral and the letter `s`. -/
def seconds? : Json → Option ℚ
  | .str s => if s.toList.getLast? = some 's' then numeral? s.toList.dropLast else none
  | _ => none

/-- The length of a span in seconds. -/
def total (d : Span) : ℚ := d.seconds + d.nanos / 1000000000

/-- The length of a span in nanoseconds. -/
def totalNanos (d : Span) : Nat := d.seconds * 1000000000 + d.nanos

/-- The number that is nearest to the length of a span. -/
def nearest? (d : Span) : Option Magnitude := ofRatio? (totalNanos d) (10 ^ 9)

/-- The form of a span tells its length. -/
def IsExact (d : Span) : Prop := seconds? (Value.duration d).toJson = some (total d)

variable {d : Span} {m : Magnitude}

theorem total_eq (d : Span) : total d = totalNanos d / (10 ^ 9 : Nat) := by
  have power : ((10 ^ 9 : Nat) : ℚ) = 1000000000 := by norm_num
  rw [total, totalNanos, power]
  push_cast
  rw [add_div, mul_div_cancel_right₀ _ (by norm_num)]

theorem totalNanos_pos (nanos : d.nanos ≠ 0) : 0 < totalNanos d := by
  unfold totalNanos
  omega

theorem seconds?_numeral (cs : List Char) :
    seconds? (.str (String.ofList (cs ++ ['s']))) = numeral? cs := by
  simp [seconds?]

/-! ## The two parts and their sum -/

theorem inRange_of_bounds {x : ℚ} (lower : 1 / 2 ^ 60 ≤ x) (upper : x < 2 ^ 70) : InRange x where
  lower_le := by
    refine le_trans ?_ lower
    rw [one_div, ← zpow_natCast, ← zpow_neg]
    exact zpow_le_zpow_right₀ one_le_two (by norm_num)
  lt_upper := by
    refine upper.trans_le ?_
    rw [← zpow_natCast]
    exact zpow_le_zpow_right₀ one_le_two (by norm_num)

/-- The rounded whole seconds, of which there may be none. -/
inductive IsWhole (d : Span) (whole : Magnitude) : Prop where
  | none (seconds : d.seconds = 0) (value : whole.value = 0)
  | some (pos : 0 < d.seconds) (normal : whole.IsNormal) (rounds : whole.Rounds d.seconds)

theorem exists_isWhole (d : Span) : ∃ whole, ofNat? d.seconds = some whole ∧ IsWhole d whole := by
  rcases Nat.eq_zero_or_pos d.seconds with none | pos
  · refine ⟨.zero, ?_, .none none ?_⟩
    · rw [ofNat?, ofRatio?, if_pos none]
    · simp [value, zero]
  · have upper : (d.seconds : ℚ) < 2 ^ 64 := by exact_mod_cast d.valid.1
    have lower : (1 : ℚ) ≤ d.seconds := by exact_mod_cast pos
    have range : InRange (d.seconds / (1 : Nat)) := by
      rw [Nat.cast_one, div_one]
      exact inRange_of_bounds (le_trans (by norm_num) lower) (upper.trans (by norm_num))
    obtain ⟨whole, found, normal, rounds⟩ := ofRatio?_spec pos Nat.one_pos range
    rw [Nat.cast_one, div_one] at rounds
    exact ⟨whole, found, .some pos normal rounds⟩

/-- The fraction is rounded. -/
theorem fraction_spec (d : Span) (nanos : d.nanos ≠ 0) :
    ∃ fraction, ofRatio? d.nanos 1000000000 = some fraction ∧ fraction.IsNormal ∧
      fraction.Rounds (d.nanos / 1000000000) := by
  have lower : (1 : ℚ) ≤ d.nanos := by exact_mod_cast Nat.pos_of_ne_zero nanos
  have upper : (d.nanos : ℚ) < 1000000000 := by exact_mod_cast d.valid.2
  have range : InRange (d.nanos / (1000000000 : Nat)) := by
    refine inRange_of_bounds ?_ ?_
    · rw [le_div_iff₀ (by norm_num)]
      push_cast
      linarith
    · rw [div_lt_iff₀ (by norm_num)]
      push_cast
      linarith
  exact_mod_cast ofRatio?_spec (Nat.pos_of_ne_zero nanos) (by norm_num) range

/-- The number of a span is the rounded sum of its rounded parts. -/
structure SumSpec (d : Span) (m whole fraction : Magnitude) : Prop where
  spanNumber : spanNumber? d = some m
  isWhole : IsWhole d whole
  fraction_normal : fraction.IsNormal
  fraction_rounds : fraction.Rounds (d.nanos / 1000000000)
  normal : m.IsNormal
  rounds : m.Rounds (whole.value + fraction.value)

theorem total_pos (nanos : d.nanos ≠ 0) : 1 / 1000000000 ≤ total d := by
  have : (1 : ℚ) ≤ d.nanos := by exact_mod_cast Nat.pos_of_ne_zero nanos
  have : (0 : ℚ) ≤ d.seconds := Nat.cast_nonneg _
  unfold total
  linarith

theorem nanos_lt (d : Span) : (d.nanos / 1000000000 : ℚ) < 1 := by
  rw [div_lt_one (by norm_num)]
  exact_mod_cast d.valid.2

theorem total_lt (d : Span) : total d < 2 ^ 64 + 1 := by
  have : (d.seconds : ℚ) < 2 ^ 64 := by exact_mod_cast d.valid.1
  have := nanos_lt d
  unfold total
  linarith

/-- Rounding the parts moves the length by a small part of it. -/
theorem parts_near {whole fraction : Magnitude} (isWhole : IsWhole d whole)
    (normal : fraction.IsNormal) (rounds : fraction.Rounds (d.nanos / 1000000000)) :
    |total d - (whole.value + fraction.value)| ≤ total d / 2 ^ 52 := by
  have wholeNear : |d.seconds - whole.value| ≤ d.seconds / 2 ^ 52 := by
    cases isWhole with
    | none seconds value =>
      rw [seconds, value]
      norm_num
    | some pos normal rounds => exact normal.abs_sub_le rounds
  have fractionNear := normal.abs_sub_le rounds
  rw [abs_le] at *
  unfold total
  constructor <;> linarith

theorem spanNumber?_spec (nanos : d.nanos ≠ 0) :
    ∃ m whole fraction, SumSpec d m whole fraction := by
  obtain ⟨whole, foundWhole, isWhole⟩ := exists_isWhole d
  obtain ⟨fraction, foundFraction, normal, rounds⟩ := fraction_spec d nanos
  have near := abs_le.1 (parts_near isWhole normal rounds)
  have lower := total_pos nanos
  have upper := total_lt d
  have range : InRange (whole.value + fraction.value) :=
    inRange_of_bounds (by linarith) (by linarith)
  obtain ⟨m, found, normal', rounds'⟩ := add?_spec range
  refine ⟨m, whole, fraction, ?_, isWhole, normal, rounds, normal', rounds'⟩
  simp only [spanNumber?, foundWhole, foundFraction, Option.bind_eq_bind, Option.bind_some, found]

namespace SumSpec

variable {whole fraction : Magnitude}

theorem near (spec : SumSpec d m whole fraction) : |total d - m.value| ≤ 3 * total d / 2 ^ 52 := by
  have parts := parts_near spec.isWhole spec.fraction_normal spec.fraction_rounds
  have sum := spec.normal.abs_sub_le spec.rounds
  rw [abs_le] at *
  constructor <;> linarith

theorem inRange (spec : SumSpec d m whole fraction) (nanos : d.nanos ≠ 0) : InRange m.value := by
  have near := abs_le.1 spec.near
  have lower := total_pos nanos
  have upper := total_lt d
  exact inRange_of_bounds (by linarith) (by linarith)

/-- The form of a span with a fraction tells the shortest decimal of its number. -/
theorem seconds?_eq (spec : SumSpec d m whole fraction) (nanos : d.nanos ≠ 0) :
    seconds? (Value.duration d).toJson = some (m.shortest .up).value := by
  obtain ⟨proper, low, high, -⟩ := spec.normal.shortest_rounds (spec.inRange nanos) .up
  have nonzero : m.significand ≠ 0 := by
    have := spec.normal.significand_ge
    omega
  have form : (Value.duration d).toJson =
      .str (String.ofList ((m.shortest .up).layout .positional ++ ['s'])) := by
    rw [Value.toJson, durationText, if_neg nanos, spec.spanNumber]
    simp only [Magnitude.layout, if_neg nonzero]
    rfl
  rw [form, seconds?_numeral, Digits.numeral?_layout proper (by omega) (by omega)]

end SumSpec

/-- Whole seconds keep every digit. -/
theorem isExact_of_whole (whole : d.nanos = 0) : IsExact d := by
  have form : (Value.duration d).toJson =
      .str (String.ofList (Nat.toDigits 10 d.seconds ++ ['s'])) := by
    rw [Value.toJson, durationText, if_pos whole, Nat.toString_eq_ofList_toDigits,
      String.toList_ofList]
  rw [IsExact, form, seconds?_numeral, numeral?_toDigits, total, whole]
  simp

/-! ## Lengths of a few places -/

/-- The last place of the numbers below `2 ^ k`, where it is finer than some decimal places. -/
theorem last_place_lt {k places : Nat} (bound : 2 ^ k * 10 ^ places < 2 ^ 53) :
    (2 : ℚ) ^ (k - 53 : ℤ) < 1 / 10 ^ places := by
  have bound' : (2 : ℚ) ^ k * 10 ^ places < 1 * 2 ^ 53 := by
    rw [one_mul]
    exact_mod_cast bound
  rw [zpow_sub₀ two_ne_zero, zpow_natCast]
  exact (div_lt_div_iff₀ (by positivity) (by positivity)).2 bound'

theorem exponent_lt_of_rounds (normal : m.IsNormal) {k places : Nat} {x : ℚ}
    (rounds : m.Rounds x) (bound : 2 ^ k * 10 ^ places < 2 ^ 53)
    (le : x ≤ 2 ^ k - 1 / 10 ^ places) : m.exponent < k - 52 := by
  refine normal.exponent_lt rounds (le.trans_lt ?_)
  rw [zpow_natCast]
  exact sub_lt_sub_left (last_place_lt bound) _

theorem total_of_places {places : Nat} (le : places ≤ 9) (dvd : 10 ^ (9 - places) ∣ d.nanos) :
    ∃ n : Nat, total d = n / 10 ^ places := by
  obtain ⟨k, nanos⟩ := dvd
  have power : (1000000000 : ℚ) = 10 ^ (9 - places) * 10 ^ places := by
    rw [← pow_add, Nat.sub_add_cancel le]
    norm_num
  refine ⟨d.seconds * 10 ^ places + k, ?_⟩
  rw [total, nanos, power]
  push_cast
  rw [mul_div_mul_left _ _ (by positivity), add_div, mul_div_cancel_right₀ _ (by positivity)]

theorem total_le {places k n : Nat} (length : total d = n / 10 ^ places)
    (small : d.seconds < 2 ^ k) : total d ≤ 2 ^ k - 1 / 10 ^ places := by
  have pos : (0 : ℚ) < 10 ^ places := by positivity
  have seconds : (d.seconds : ℚ) + 1 ≤ 2 ^ k := by exact_mod_cast small
  have lt : total d < 2 ^ k := by
    have := nanos_lt d
    unfold total
    linarith
  have steps : n + 1 ≤ 2 ^ k * 10 ^ places := by
    rw [length, div_lt_iff₀ pos] at lt
    exact_mod_cast lt
  rw [length, le_sub_iff_add_le, ← add_div, div_le_iff₀ pos]
  exact_mod_cast steps

theorem SumSpec.isExact {whole fraction : Magnitude} (spec : SumSpec d m whole fraction)
    (nanos : d.nanos ≠ 0) {places k n : Nat} (bound : 2 ^ k * 10 ^ places < 2 ^ 53)
    (length : total d = n / 10 ^ places) (small : d.seconds < 2 ^ k)
    (ge : 1 / 10 ^ places ≤ m.value) (rounds : m.Rounds (total d)) : IsExact d := by
  have exponent := exponent_lt_of_rounds spec.normal rounds bound (total_le length small)
  have fine : 4 * m.quarter < 1 / 10 ^ places := by
    rw [← two_zpow_exponent]
    exact (zpow_le_zpow_right₀ one_le_two (by omega)).trans_lt (last_place_lt bound)
  rw [IsExact, spec.seconds?_eq nanos, length]
  exact congrArg some
    (spec.normal.shortest_value_eq (spec.inRange nanos) fine ge (length ▸ rounds) .up)

/-- The number nearest to a nanosecond is not below it. -/
theorem nanosecond_le (normal : m.IsNormal) {n : Nat} (pos : 0 < n)
    (rounds : m.Rounds (n / 10 ^ 9)) : 1 / 10 ^ 9 ≤ m.value := by
  obtain rfl | two : n = 1 ∨ 2 ≤ n := by omega
  · have nearest : ofRatio? 1 (10 ^ 9) = some ⟨4835703278458517, -82⟩ := by decide +kernel
    have range : InRange ((1 : Nat) / (10 ^ 9 : Nat)) :=
      inRange_of_bounds (by norm_num) (by norm_num)
    have same := (ofRatio?_eq_some_iff normal (by decide) (by decide) range).2
      (by exact_mod_cast rounds)
    rw [nearest, Option.some.injEq] at same
    rw [← same, value]
    norm_num
  · have near := abs_le.1 (rounds.abs_sub_le.trans normal.quarter_le)
    have : (2 : ℚ) ≤ n := by exact_mod_cast two
    linarith

/-- All nine places of a length below `2 ^ 23` seconds are kept. -/
theorem SumSpec.isExact_nine {whole fraction : Magnitude} (spec : SumSpec d m whole fraction)
    (nanos : d.nanos ≠ 0) (small : d.seconds < 2 ^ 23) (rounds : m.Rounds (total d)) :
    IsExact d := by
  have length : total d = totalNanos d / 10 ^ 9 := by exact_mod_cast total_eq d
  exact spec.isExact nanos (by norm_num) length small
    (nanosecond_le spec.normal (totalNanos_pos nanos) (length ▸ rounds)) rounds

/-! ## Spans whose forms tell their lengths -/

theorem inRange_total (nanos : d.nanos ≠ 0) : InRange (total d) := by
  have lower := total_pos nanos
  have upper := total_lt d
  exact inRange_of_bounds (by linarith) (by linarith)

/-- The number of a span is the nearest to its length where the length rounds to it. -/
theorem nearest?_eq_some_iff (nanos : d.nanos ≠ 0) (normal : m.IsNormal) :
    nearest? d = some m ↔ m.Rounds (total d) := by
  have range := inRange_total nanos
  rw [total_eq] at range ⊢
  exact ofRatio?_eq_some_iff normal (totalNanos_pos nanos) (by norm_num) range

/-- The length of a span is told just where its number is the nearest to the length, and the length
the shortest decimal of that number. -/
theorem isExact_iff_shortest : IsExact d ↔ d.nanos = 0 ∨
    ∃ m, spanNumber? d = some m ∧ nearest? d = some m ∧ (m.shortest .up).value = total d := by
  by_cases nanos : d.nanos = 0
  · exact iff_of_true (isExact_of_whole nanos) (.inl nanos)
  rw [or_iff_right nanos]
  obtain ⟨m, whole, fraction, spec⟩ := spanNumber?_spec nanos
  rw [IsExact, spec.seconds?_eq nanos, Option.some.injEq, spec.spanNumber]
  refine ⟨fun exact => ⟨m, rfl, ?_, exact⟩, fun ⟨m', same, _, exact⟩ => ?_⟩
  · obtain ⟨-, -, -, rounds⟩ := spec.normal.shortest_rounds (spec.inRange nanos) .up
    rw [exact] at rounds
    exact (nearest?_eq_some_iff nanos spec.normal).2 rounds
  · cases same
    exact exact

/-- A length of few places is told just where the number of the span is the nearest to it. -/
theorem isExact_iff {places k : Nat} (le : places ≤ 9) (dvd : 10 ^ (9 - places) ∣ d.nanos)
    (bound : 2 ^ k * 10 ^ places < 2 ^ 53) (small : d.seconds < 2 ^ k) :
    IsExact d ↔ d.nanos = 0 ∨ spanNumber? d = nearest? d := by
  refine ⟨fun exact => ?_, fun nearest => ?_⟩
  · obtain whole | ⟨m, spanNumber, nearest, -⟩ := isExact_iff_shortest.1 exact
    · exact .inl whole
    · exact .inr (spanNumber.trans nearest.symm)
  · by_cases nanos : d.nanos = 0
    · exact isExact_of_whole nanos
    obtain ⟨m, whole, fraction, spec⟩ := spanNumber?_spec nanos
    have rounds : m.Rounds (total d) := by
      rw [or_iff_right nanos, spec.spanNumber] at nearest
      exact (nearest?_eq_some_iff nanos spec.normal).1 nearest.symm
    by_cases nine : d.seconds < 2 ^ 23
    · exact spec.isExact_nine nanos nine rounds
    · obtain ⟨n, length⟩ := total_of_places le dvd
      refine spec.isExact nanos bound length small ?_ rounds
      -- The number is not below one second, which is not below the last of the places.
      have seconds : (1 : ℚ) + 1 ≤ d.seconds := by
        have : 1 + 1 ≤ d.seconds := by omega
        exact_mod_cast this
      have : total d = d.seconds + d.nanos / 1000000000 := rfl
      have : (0 : ℚ) ≤ d.nanos / 1000000000 := by positivity
      have near := abs_le.1 spec.near
      have step : (1 / 10 ^ places : ℚ) ≤ 1 := by
        rw [div_le_one (by positivity)]
        exact one_le_pow₀ (by norm_num)
      linarith

/-- Spans of less than a second keep their fraction. -/
theorem isExact_of_fraction (none : d.seconds = 0) : IsExact d := by
  by_cases nanos : d.nanos = 0
  · exact isExact_of_whole nanos
  obtain ⟨m, whole, fraction, spec⟩ := spanNumber?_spec nanos
  refine spec.isExact_nine nanos (none ▸ by decide) ?_
  cases spec.isWhole with
  | none _ zero =>
    have same : m = fraction := by
      refine spec.normal.eq_of_rounds spec.fraction_normal spec.rounds ?_
      rw [zero, zero_add]
      exact fraction.rounds_value
    rw [same, total, none, Nat.cast_zero, zero_add]
    exact spec.fraction_rounds
  | some pos => exact absurd none pos.ne'

/-! ## Between `2 ^ 20` and `2 ^ 23` seconds -/

/-- Whole nanoseconds are not near a binary fraction that is no number of nanoseconds itself. -/
theorem midpoint_far (n : Nat) {j : Int} (odd : j % 2 = 1) {t : Nat} (coarse : 10 ≤ t)
    (fine : t ≤ 33) : 1 / 2 ^ 54 < |(n / 10 ^ 9 - j / 2 ^ t : ℚ)| := by
  obtain ⟨u, rfl⟩ : ∃ u, t = u + 10 := ⟨t - 10, by omega⟩
  have difference : (n / 10 ^ 9 - j / 2 ^ (u + 10) : ℚ) =
      (n * 2 ^ (u + 1) - j * 5 ^ 9 : ℤ) / (5 ^ 9 * 2 ^ (u + 10)) := by
    rw [div_sub_div _ _ (by norm_num) (by positivity),
      div_eq_div_iff (by positivity) (by positivity)]
    push_cast
    ring
  -- The difference is an odd number of parts that are larger than the bound.
  have nonzero : 1 ≤ |(n * 2 ^ (u + 1) - j * 5 ^ 9 : ℤ)| := by
    refine Int.one_le_abs fun zero => ?_
    rw [pow_succ, ← mul_assoc] at zero
    omega
  have parts : (5 ^ 9 * 2 ^ (u + 10) : ℚ) < 2 ^ 54 :=
    calc (5 ^ 9 * 2 ^ (u + 10) : ℚ) ≤ 5 ^ 9 * 2 ^ 33 := by
          gcongr
          norm_num
      _ < 2 ^ 54 := by norm_num
  rw [difference, abs_div, abs_of_pos (show (0 : ℚ) < 5 ^ 9 * 2 ^ (u + 10) by positivity)]
  calc (1 / 2 ^ 54 : ℚ) < 1 / (5 ^ 9 * 2 ^ (u + 10)) := by gcongr
    _ ≤ _ := by
        gcongr
        exact_mod_cast nonzero

/-- So whole nanoseconds are on the same side of a midpoint as what is near them. -/
theorem side_of_midpoint {n : Nat} {y : ℚ} (close : |n / 10 ^ 9 - y| ≤ 1 / 2 ^ 54) {j : Int}
    (odd : j % 2 = 1) {t : Nat} (coarse : 10 ≤ t) (fine : t ≤ 33) :
    ((j / 2 ^ t : ℚ) ≤ y → (j / 2 ^ t : ℚ) < n / 10 ^ 9) ∧
      (y ≤ (j / 2 ^ t : ℚ) → n / 10 ^ 9 < (j / 2 ^ t : ℚ)) := by
  have far := midpoint_far n odd coarse fine
  rw [abs_le] at close
  rw [lt_abs] at far
  constructor <;> intro side <;> rcases far with far | far <;> linarith

/-- Whole nanoseconds round as what is near them does, where the last place is no finer than
`2 ^ -32`. -/
theorem rounds_of_close {n : Nat} {y : ℚ} (normal : m.IsNormal) (rounds : m.Rounds y)
    (close : |n / 10 ^ 9 - y| ≤ 1 / 2 ^ 54) (low : 2 ^ 20 ≤ (n / 10 ^ 9 : ℚ))
    (low' : 2 ^ 20 ≤ y) (fine : m.exponent ≤ -30) : m.Rounds (n / 10 ^ 9) := by
  obtain ⟨t, exponent⟩ : ∃ t : Nat, m.exponent = 1 - t := ⟨(1 - m.exponent).toNat, by omega⟩
  have quarter : m.quarter = 1 / 2 ^ (t + 1) := by
    rw [Magnitude.quarter, exponent, one_div, ← zpow_natCast, ← zpow_neg]
    congr 1
    push_cast
    ring
  have t_le : t ≤ 33 := by
    have significand : (m.significand : ℚ) + 1 ≤ 2 ^ 53 := by exact_mod_cast normal.significand_lt
    have reached : (2 : ℚ) ^ 20 < 2 ^ 55 * (1 / 2 ^ (t + 1)) :=
      calc (2 : ℚ) ^ 20 ≤ (4 * m.significand + 2) * m.quarter := low'.trans rounds.le_upper
        _ < 2 ^ 55 * m.quarter := mul_lt_mul_of_pos_right (by linarith) m.quarter_pos
        _ = 2 ^ 55 * (1 / 2 ^ (t + 1)) := by rw [quarter]
    rw [mul_one_div, lt_div_iff₀ (by positivity), ← pow_add, pow_lt_pow_iff_right₀ one_lt_two]
      at reached
    omega
  have upper : m.upper = (2 * m.significand + 1 : ℤ) / 2 ^ t := by
    rw [Magnitude.upper, quarter, pow_succ]
    push_cast
    field_simp
    ring
  refine rounds_of_lt_of_lt ?_ ?_
  · by_cases power : m.significand = 2 ^ 52 ∧ -1074 < m.exponent
    · have lower : m.lower = (4 * m.significand - 1 : ℤ) / 2 ^ (t + 1) := by
        rw [Magnitude.lower, quarter, below, if_pos power]
        push_cast
        exact mul_one_div _ _
      by_cases least : t = 33
      · -- The midpoint is below `2 ^ 20` itself.
        refine lt_of_lt_of_le ?_ low
        rw [lower, least, power.1]
        norm_num
      · rw [lower]
        exact (side_of_midpoint close (by omega) (by omega) (by omega)).1 (lower ▸ rounds.lower_le)
    · have lower : m.lower = (2 * m.significand - 1 : ℤ) / 2 ^ t := by
        rw [Magnitude.lower, quarter, below, if_neg power, pow_succ]
        push_cast
        field_simp
        ring
      rw [lower]
      exact (side_of_midpoint close (by omega) (by omega) (by omega)).1 (lower ▸ rounds.lower_le)
  · rw [upper]
    exact (side_of_midpoint close (by omega) (by omega) (by omega)).2 (upper ▸ rounds.le_upper)

theorem SumSpec.whole_value {whole fraction : Magnitude} (spec : SumSpec d m whole fraction)
    (small : d.seconds < 2 ^ 23) : whole.value = d.seconds := by
  cases spec.isWhole with
  | none seconds value => rw [seconds, value, Nat.cast_zero]
  | some _ normal rounds =>
    have le : (d.seconds : ℚ) + 1 ≤ 2 ^ 23 := by exact_mod_cast small
    have bound : 2 ^ 23 * 10 ^ 9 < 2 ^ 53 := by norm_num
    have := exponent_lt_of_rounds normal rounds bound (by linarith)
    exact rounds.value_eq_natCast (by omega)

theorem SumSpec.fraction_near {whole fraction : Magnitude} (spec : SumSpec d m whole fraction) :
    |d.nanos / 1000000000 - fraction.value| ≤ 1 / 2 ^ 54 := by
  have le : (d.nanos : ℚ) ≤ 999999999 := by exact_mod_cast Nat.le_of_lt_succ d.valid.2
  have bound : 2 ^ 0 * 10 ^ 9 < 2 ^ 53 := by norm_num
  have := exponent_lt_of_rounds spec.fraction_normal spec.fraction_rounds bound (by linarith)
  have quarter : fraction.quarter ≤ 1 / 2 ^ 55 := quarter_le_of_exponent_le (by push_cast; omega)
  exact spec.fraction_rounds.abs_sub_le.trans (by linarith)

/-- Spans from `2 ^ 20` to `2 ^ 23` seconds keep their fraction. -/
theorem isExact_of_between (large : 2 ^ 20 ≤ d.seconds) (small : d.seconds < 2 ^ 23) :
    IsExact d := by
  by_cases nanos : d.nanos = 0
  · exact isExact_of_whole nanos
  obtain ⟨m, whole, fraction, spec⟩ := spanNumber?_spec nanos
  have rounds := spec.rounds
  rw [spec.whole_value small] at rounds
  have near := spec.fraction_near
  have fraction_pos := spec.fraction_normal.value_pos
  have length : total d = totalNanos d / 10 ^ 9 := by exact_mod_cast total_eq d
  have close : |(totalNanos d / 10 ^ 9 : ℚ) - (d.seconds + fraction.value)| ≤ 1 / 2 ^ 54 := by
    rwa [← length, total, add_sub_add_left_eq_sub]
  have seconds_ge : (2 : ℚ) ^ 20 ≤ d.seconds := by exact_mod_cast large
  have seconds_le : (d.seconds : ℚ) + 1 ≤ 2 ^ 23 := by exact_mod_cast small
  have nanos_nonneg : (0 : ℚ) ≤ d.nanos / 1000000000 := by positivity
  have nanos_le : (d.nanos : ℚ) ≤ 999999999 := by exact_mod_cast Nat.le_of_lt_succ d.valid.2
  have fine : m.exponent ≤ -30 := by
    have power : (2 : ℚ) ^ (23 : ℤ) - 2 ^ (23 - 53 : ℤ) = 2 ^ 23 - 1 / 2 ^ 30 := by norm_num
    have lt : d.seconds + fraction.value < 2 ^ (23 : ℤ) - 2 ^ (23 - 53 : ℤ) := by
      rw [power]
      linarith [abs_le.1 near]
    have := spec.normal.exponent_lt rounds lt
    omega
  refine spec.isExact_nine nanos small ?_
  rw [length]
  refine rounds_of_close spec.normal rounds close ?_ (by linarith) fine
  rw [← length, total]
  linarith

/-! ## All spans -/

/-- The form of a span is a numeral of nearly its length. -/
theorem seconds?_near (d : Span) : ∃ q, seconds? (Value.duration d).toJson = some q ∧
    |q - total d| ≤ total d / 2 ^ 50 := by
  by_cases nanos : d.nanos = 0
  · refine ⟨total d, isExact_of_whole nanos, ?_⟩
    have : 0 ≤ total d := by
      unfold total
      positivity
    rw [sub_self, abs_zero]
    positivity
  obtain ⟨m, whole, fraction, spec⟩ := spanNumber?_spec nanos
  refine ⟨_, spec.seconds?_eq nanos, ?_⟩
  obtain ⟨-, -, -, rounds⟩ := spec.normal.shortest_rounds (spec.inRange nanos) .up
  have half := abs_le.1 (rounds.abs_sub_le.trans spec.normal.quarter_le)
  have near := abs_le.1 spec.near
  have := total_pos nanos
  rw [abs_le]
  constructor <;> linarith

/-- Spans whose forms tell their lengths have forms of their own. -/
theorem eq_of_toJson_eq {d d' : Span} (exact : IsExact d) (exact' : IsExact d')
    (same : (Value.duration d).toJson = (Value.duration d').toJson) : d = d' := by
  have length : total d = total d' := Option.some.inj (exact.symm.trans (same ▸ exact'))
  have nanos : totalNanos d = totalNanos d' := by
    rw [total_eq, total_eq, div_left_inj' (by norm_num)] at length
    exact_mod_cast length
  have := d.valid.2
  have := d'.valid.2
  unfold totalNanos at nanos
  cases d
  cases d'
  simp only [Span.mk.injEq] at *
  omega

/-- The form of a span is a plain numeral of seconds, off by a small part of the length at most. It
tells the length itself for whole seconds, and otherwise just where the rounded sum of the rounded
parts is the number nearest to the length and the length is the shortest decimal of that number. The
latter is so while the places of the length are coarser than the last place of the numbers there, as
all nine are below `2 ^ 23` seconds; the former for lengths below one second and from `2 ^ 20` to
`2 ^ 23` seconds. Spans whose lengths are told have forms of their own. -/
theorem duration_tells_length (d : Span) :
    (∃ q, seconds? (Value.duration d).toJson = some q ∧ |q - total d| ≤ total d / 2 ^ 50) ∧
    (IsExact d ↔ d.nanos = 0 ∨
      ∃ m, spanNumber? d = some m ∧ nearest? d = some m ∧ (m.shortest .up).value = total d) ∧
    (∀ places k, places ≤ 9 → 10 ^ (9 - places) ∣ d.nanos → 2 ^ k * 10 ^ places < 2 ^ 53 →
      d.seconds < 2 ^ k → (IsExact d ↔ d.nanos = 0 ∨ spanNumber? d = nearest? d)) ∧
    (d.seconds = 0 ∨ 2 ^ 20 ≤ d.seconds ∧ d.seconds < 2 ^ 23 → IsExact d) ∧
    (IsExact d → ∀ d', IsExact d' →
      (Value.duration d).toJson = (Value.duration d').toJson → d = d') := by
  refine ⟨seconds?_near d, isExact_iff_shortest, fun places k => isExact_iff, fun kept => ?_,
    fun exact d' => eq_of_toJson_eq exact⟩
  rcases kept with none | ⟨large, small⟩
  · exact isExact_of_fraction none
  · exact isExact_of_between large small

/-- A second and a half, a nanosecond more than `2 ^ 20` seconds, and a quarter of a second more
than `10 ^ 11` seconds. The forms of all three tell their lengths. -/
theorem duration_tells_length_of_halves :
    let half : Span := ⟨1, 500000000, by decide⟩
    let late : Span := ⟨1048576, 1, by decide⟩
    let later : Span := ⟨100000000000, 250000000, by decide⟩
    IsExact half ∧ IsExact late ∧ IsExact later ∧
      (Value.duration half).toJson ≠ (Value.duration late).toJson := by
  intro half late later
  have exact : IsExact half := ((duration_tells_length half).2.2.1 9 23 (by decide) (by decide)
    (by norm_num) (by decide)).2 (.inr (by decide +kernel))
  have exact' : IsExact late := (duration_tells_length late).2.2.2.1 (.inr (by decide))
  have exact'' : IsExact later := ((duration_tells_length later).2.2.1 2 46 (by decide) (by decide)
    (by norm_num) (by decide)).2 (.inr (by decide +kernel))
  exact ⟨exact, exact', exact'', fun same =>
    absurd ((duration_tells_length half).2.2.2.2 exact late exact' same) (by decide)⟩

/-- The sum of the rounded parts may be another number than the nearest, so that a fraction of three
places is lost; and from `2 ^ 23` seconds on different spans share forms. -/
theorem duration_loses_fraction :
    let short : Span := ⟨1, 118000000, by decide⟩
    let long : Span := ⟨8388608, 1, by decide⟩
    let longer : Span := ⟨8388608, 2, by decide⟩
    ¬ IsExact short ∧ (Value.duration short).toJson = .str "1.1179999999999999s" ∧
      (Value.duration long).toJson = (Value.duration longer).toJson := by
  intro short long longer
  refine ⟨?_, ?_, ?_⟩
  · have differs : ¬ (short.nanos = 0 ∨ spanNumber? short = nearest? short) := by decide +kernel
    have bound : 2 ^ 23 * 10 ^ 9 < 2 ^ 53 := by norm_num
    rwa [isExact_iff le_rfl (by decide) bound (by decide)]
  · have text : durationText short = "1.1179999999999999s" := by decide +kernel
    exact congrArg Json.str text
  · have text : durationText long = durationText longer := by decide +kernel
    exact congrArg Json.str text

end Rebac.Condition
