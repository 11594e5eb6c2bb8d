import Mathlib.Data.Nat.Cast.Order.Field
import Rebac.Proofs.Decimal.Binary64

/-!
# Shortest decimals

The search for the shortest decimal of a number finds one that rounds to it, as early as there is
one, and after seventeen digits at the latest.
-/

namespace Rebac.Decimal

/-! ## Powers of ten -/

theorem tenPowRatio_pos (e : Int) : 0 < (tenPowRatio e).1 ∧ 0 < (tenPowRatio e).2 := by
  unfold tenPowRatio
  split <;> exact ⟨Nat.pos_of_ne_zero (by simp), Nat.pos_of_ne_zero (by simp)⟩

theorem tenPowRatio_eq (e : Int) : ((tenPowRatio e).1 / (tenPowRatio e).2 : ℚ) = 10 ^ e := by
  unfold tenPowRatio
  split
  next nonneg =>
    obtain ⟨k, rfl⟩ := Int.eq_ofNat_of_zero_le nonneg
    simp [Nat.pow_eq]
  next negative =>
    obtain ⟨k, rfl⟩ : ∃ k : Nat, e = -k := ⟨(-e).toNat, by omega⟩
    simp [Nat.pow_eq]

/-- The place of the point before the first digit of a fraction. -/
structure PointAt (x : ℚ) (point : Int) : Prop where
  lower_le : 10 ^ (point - 1) ≤ x
  lt_upper : x < 10 ^ point

/-- The search goes down from a place that is too high to the right one. -/
theorem decimalPoint_spec {num den : Nat} (den_pos : 0 < den) (fuel : Nat) {e : Int}
    (upper : (num / den : ℚ) < 10 ^ e) (lower : 10 ^ (e - fuel) ≤ (num / den : ℚ)) :
    PointAt (num / den) (decimalPoint num den fuel e) ∧
      e - fuel < decimalPoint num den fuel e ∧ decimalPoint num den fuel e ≤ e := by
  have den_pos' : (0 : ℚ) < den := Nat.cast_pos.2 den_pos
  induction fuel generalizing e with
  | zero => exact absurd (lower.trans_lt upper) (by simp)
  | succ fuel ih =>
    have reached : (if 0 ≤ e - 1 then den * Nat.pow 10 (e - 1).toNat ≤ num
        else den ≤ num * Nat.pow 10 (-(e - 1)).toNat) ↔ (10 ^ (e - 1) ≤ (num / den : ℚ)) := by
      rw [le_div_iff₀ den_pos']
      split
      next nonneg =>
        obtain ⟨k, same⟩ := Int.eq_ofNat_of_zero_le nonneg
        rw [same, ← Nat.cast_le (α := ℚ)]
        simp [Nat.pow_eq, mul_comm]
      next negative =>
        obtain ⟨k, same⟩ : ∃ k : Nat, e - 1 = -k := ⟨(-(e - 1)).toNat, by omega⟩
        rw [same, ← Nat.cast_le (α := ℚ), zpow_neg, inv_mul_le_iff₀ (by positivity)]
        simp [Nat.pow_eq, mul_comm]
    simp only [decimalPoint, reached]
    split
    next found => exact ⟨⟨found, upper⟩, by omega, le_rfl⟩
    next less =>
      obtain ⟨point, low, high⟩ := ih (not_le.1 less) (by
        rw [sub_sub, add_comm 1]
        exact_mod_cast lower)
      exact ⟨point, by omega, by omega⟩

/-! ## Decimals of a count of digits -/

namespace Digits

/-- The decimal as a fraction. -/
def value (d : Digits) : ℚ := d.digits * 10 ^ (d.point - d.count)

/-- A decimal of this count of digits, the first of them not zero. -/
structure IsProper (d : Digits) : Prop where
  count_pos : 1 ≤ d.count
  digits_ge : 10 ^ (d.count - 1) ≤ d.digits
  digits_lt : d.digits < 10 ^ d.count

end Digits

namespace Magnitude

variable {m : Magnitude} {tie : Tie} {point : Int} {count : Nat} {d : Digits}

/-- A step of the decimals of a count of digits. -/
def unit (point : Int) (count : Nat) : ℚ := 10 ^ (point - count)

theorem unit_pos (point : Int) (count : Nat) : 0 < unit point count := by
  unfold unit
  positivity

/-- The neighbours of the number are tried, and one that rounds to it is found if there is one. -/
theorem digitsOfCount?_spec (normal : m.IsNormal) (tie : Tie) (point : Int) (count : Nat) :
    ∃ low : Nat, low * unit point count ≤ m.value ∧ m.value < (low + 1 : Nat) * unit point count ∧
      ((¬ m.Rounds (low * unit point count) ∧ ¬ m.Rounds ((low + 1 : Nat) * unit point count) ∧
          m.digitsOfCount? tie point count = none) ∨
        ∃ k, (k = low ∨ k = low + 1) ∧ m.Rounds (k * unit point count) ∧
          m.digitsOfCount? tie point count =
            some (if k = 10 ^ count then ⟨1, 1, point + 1⟩ else ⟨k, count, point⟩)) := by
  obtain ⟨unitNum_pos, unitDen_pos⟩ := tenPowRatio_pos (point - count)
  have unit_eq := tenPowRatio_eq (point - count)
  have ratio_pos := m.toRatio_pos
  have ratio_eq := m.toRatio_eq
  have fits : ∀ k : Nat, m.isRoundingOf (k * (tenPowRatio (point - count)).1)
      (tenPowRatio (point - count)).2 = true ↔ m.Rounds (k * unit point count) := by
    intro k
    rw [isRoundingOf_iff normal unitDen_pos, Nat.cast_mul, mul_div_assoc, unit_eq]
    rfl
  simp only [digitsOfCount?, ← fits, Nat.pow_eq]
  generalize (tenPowRatio (point - count)).1 = unitNum at *
  generalize (tenPowRatio (point - count)).2 = unitDen at *
  generalize m.toRatio.1 = num at *
  generalize m.toRatio.2 = den at *
  have step_pos : 0 < den * unitNum := Nat.mul_pos ratio_pos unitNum_pos
  have quotient : (num * unitDen : Nat) / (den * unitNum : Nat) = m.value / unit point count := by
    rw [← ratio_eq, unit, ← unit_eq, div_div_div_eq, Nat.cast_mul, Nat.cast_mul]
  have step_pos' : (0 : ℚ) < (den * unitNum : Nat) := Nat.cast_pos.2 step_pos
  refine ⟨num * unitDen / (den * unitNum), ?_, ?_, ?_⟩
  · rw [← le_div_iff₀ (unit_pos ..), ← quotient]
    exact Nat.cast_div_le
  · rw [← div_lt_iff₀ (unit_pos ..), ← quotient, div_lt_iff₀ step_pos', ← Nat.cast_mul, Nat.cast_lt,
      mul_comm (_ + 1)]
    exact Nat.lt_mul_div_succ _ step_pos
  · generalize num * unitDen / (den * unitNum) = low
    cases lowFits : m.isRoundingOf (low * unitNum) unitDen <;>
      cases highFits : m.isRoundingOf ((low + 1) * unitNum) unitDen
    · exact .inl ⟨Bool.false_ne_true, Bool.false_ne_true, rfl⟩
    · exact .inr ⟨low + 1, .inr rfl, highFits, rfl⟩
    · exact .inr ⟨low, .inl rfl, lowFits, rfl⟩
    · refine .inr ⟨_, ?_, ?_, rfl⟩
      · split <;> simp
      · split
        · exact lowFits
        · exact highFits

/-- A decimal of this count of digits that rounds to the number is found. -/
theorem digitsOfCount?_isSome (normal : m.IsNormal) (tie : Tie) {k : Nat}
    (rounds : m.Rounds (k * unit point count)) : (m.digitsOfCount? tie point count).isSome := by
  have unit_pos := unit_pos point count
  obtain ⟨low, le, lt, ⟨notLow, notHigh, -⟩ | ⟨_, -, -, found⟩⟩ :=
    digitsOfCount?_spec normal tie point count
  · -- The neighbours are between the number and any other decimal.
    rcases Nat.lt_or_ge low k with above | below
    · have : ((low + 1 : Nat) : ℚ) ≤ k := by exact_mod_cast above
      exact absurd (m.rounds_value.convex rounds lt.le
        (mul_le_mul_of_nonneg_right this unit_pos.le)) notHigh
    · have : (k : ℚ) ≤ low := by exact_mod_cast below
      exact absurd (rounds.convex m.rounds_value
        (mul_le_mul_of_nonneg_right this unit_pos.le) le) notLow
  · rw [found]
    rfl

/-- What is found is a decimal of this count of digits, or of one digit, that rounds to the
number. -/
theorem digitsOfCount?_eq_some (normal : m.IsNormal) (pointAt : PointAt m.value point)
    (count_pos : 1 ≤ count) (found : m.digitsOfCount? tie point count = some d) :
    d.IsProper ∧ (point ≤ d.point ∧ d.point ≤ point + 1) ∧ m.Rounds d.value ∧
      ∃ k : Nat, d.value = k * unit point count := by
  have unit_pos := unit_pos point count
  have power : (10 : ℚ) ^ point = (10 ^ count : Nat) * unit point count := by
    rw [unit, Nat.cast_pow, Nat.cast_ofNat, ← zpow_natCast, ← zpow_add₀ (by norm_num)]
    congr 1
    ring
  have power' : (10 : ℚ) ^ (point - 1) = (10 ^ (count - 1) : Nat) * unit point count := by
    rw [unit, Nat.cast_pow, Nat.cast_ofNat, ← zpow_natCast, ← zpow_add₀ (by norm_num)]
    congr 1
    omega
  obtain ⟨low, le, lt, ⟨-, -, none⟩ | ⟨k, neighbour, rounds, some⟩⟩ :=
    digitsOfCount?_spec normal tie point count
  · rw [none] at found
    cases found
  have low_lt : low < 10 ^ count := by
    have := le.trans_lt (pointAt.lt_upper.trans_eq power)
    exact_mod_cast lt_of_mul_lt_mul_right this unit_pos.le
  have le_low : 10 ^ (count - 1) < low + 1 := by
    have := (power'.ge.trans pointAt.lower_le).trans_lt lt
    exact_mod_cast lt_of_mul_lt_mul_right this unit_pos.le
  rw [some, Option.some.injEq] at found
  split at found
  next carried =>
    subst found
    have value : Digits.value ⟨1, 1, point + 1⟩ = k * unit point count := by
      rw [carried, ← power, Digits.value]
      simp
    exact ⟨⟨le_rfl, by norm_num, by norm_num⟩, ⟨by simp only; omega, by simp only; omega⟩,
      value ▸ rounds, k, value⟩
  next inside =>
    subst found
    exact ⟨⟨count_pos, by simp only; omega, by simp only; omega⟩,
      ⟨by simp only; omega, by simp only; omega⟩, rounds, k, rfl⟩

/-- The search finds a decimal no later than there is one. -/
theorem digitsFrom_spec (fuel : Nat) {last : Nat} (le : count ≤ last) (lt : last < count + fuel)
    (isSome : (m.digitsOfCount? tie point last).isSome) :
    ∃ c, count ≤ c ∧ c ≤ last ∧
      m.digitsOfCount? tie point c = some (m.digitsFrom tie point fuel count) := by
  induction fuel generalizing count with
  | zero => omega
  | succ fuel ih =>
    rw [digitsFrom]
    split
    next found => exact ⟨count, le_rfl, le, found⟩
    next none =>
      have different : count ≠ last := by
        rintro rfl
        rw [none] at isSome
        cases isSome
      have next : count + 1 ≤ last := by omega
      obtain ⟨c, ge, le, found⟩ := ih next (by omega)
      exact ⟨c, by omega, le, found⟩

/-! ## The shortest decimal -/

/-- Half a step of seventeen digits is not enough to reach the midpoints. -/
theorem IsNormal.rounds_of_close (normal : m.IsNormal) {x : ℚ}
    (close : |x - m.value| ≤ m.value / (2 * 10 ^ 16)) : m.Rounds x := by
  have pos := m.quarter_pos
  have value_pos := normal.value_pos
  have within : m.value / (2 * 10 ^ 16) < m.value / 2 ^ 54 :=
    div_lt_div_of_pos_left value_pos (by norm_num) (by norm_num)
  have near : m.value / 2 ^ 54 ≤ m.below * m.quarter := by
    rw [div_le_iff₀ (by norm_num), value_eq, below]
    split
    next least =>
      rw [least.1]
      push_cast
      linarith
    next =>
      have : (m.significand : ℚ) < 2 ^ 53 := by exact_mod_cast normal.significand_lt
      push_cast
      nlinarith
  have below : (m.below : ℚ) * m.quarter ≤ 2 * m.quarter :=
    mul_le_mul_of_nonneg_right (by exact_mod_cast m.below_le_two) pos.le
  have lower : m.lower = m.value - m.below * m.quarter := by
    rw [Magnitude.lower, value_eq, sub_mul]
  have upper : m.upper = m.value + 2 * m.quarter := by
    rw [Magnitude.upper, value_eq, add_mul]
  obtain ⟨low, high⟩ := abs_le.1 close
  exact rounds_of_lt_of_lt (by linarith) (by linarith)

/-- Seventeen digits always suffice. -/
theorem IsNormal.rounds_seventeen (normal : m.IsNormal) (pointAt : PointAt m.value point) :
    ∃ k : Nat, m.Rounds (k * unit point 17) := by
  have unit_pos := unit_pos point 17
  obtain ⟨low, le, lt, -⟩ := digitsOfCount?_spec normal .up point 17
  have step : unit point 17 * 10 ^ 16 ≤ m.value := by
    refine le_trans (le_of_eq ?_) pointAt.lower_le
    rw [unit, ← zpow_natCast, ← zpow_add₀ (by norm_num)]
    congr 1
    push_cast
    ring
  have half : unit point 17 / 2 ≤ m.value / (2 * 10 ^ 16) := by
    rw [le_div_iff₀ (by norm_num)]
    linarith
  push_cast at lt
  by_cases nearer : m.value - low * unit point 17 ≤ unit point 17 / 2
  · refine ⟨low, normal.rounds_of_close ?_⟩
    rw [abs_sub_comm, abs_of_nonneg (by linarith)]
    exact nearer.trans half
  · refine ⟨low + 1, normal.rounds_of_close ?_⟩
    push_cast
    rw [abs_of_nonneg (by linarith)]
    linarith

/-- The place of the point of a number. -/
def place (m : Magnitude) : Int := decimalPoint m.toRatio.1 m.toRatio.2 700 310

theorem place_spec (range : InRange m.value) :
    PointAt m.value m.place ∧ -390 < m.place ∧ m.place ≤ 310 := by
  have powers : (2 : ℚ) ^ 1023 < 10 ^ 310 := by
    rw [show 1023 = 93 * 11 by rfl, show 310 = 31 * 10 by rfl, pow_mul, pow_mul]
    norm_num
  have upper : m.value < 10 ^ (310 : ℤ) := range.lt_upper.trans (by exact_mod_cast powers)
  have lower : 10 ^ (-390 : ℤ) ≤ m.value :=
    calc (10 : ℚ) ^ (-390 : ℤ) ≤ 10 ^ (-310 : ℤ) := zpow_le_zpow_right₀ (by norm_num) (by norm_num)
      _ ≤ 2 ^ (-1023 : ℤ) := by
          rw [zpow_neg, zpow_neg]
          exact inv_anti₀ (by positivity) (by exact_mod_cast powers.le)
      _ ≤ 2 ^ (-1022 : ℤ) := zpow_le_zpow_right₀ (by norm_num) (by norm_num)
      _ ≤ m.value := range.lower_le
  rw [← toRatio_eq] at upper lower
  have spec := decimalPoint_spec m.toRatio_pos 700 upper (by exact lower)
  rw [toRatio_eq] at spec
  exact spec

/-- The shortest decimal of a number has no more digits than any decimal that rounds to it. -/
theorem shortest_spec (normal : m.IsNormal) (range : InRange m.value) (tie : Tie) {k : Nat}
    (count_pos : 1 ≤ count) (count_le : count ≤ 17) (rounds : m.Rounds (k * unit m.place count)) :
    (m.shortest tie).IsProper ∧
      (m.place ≤ (m.shortest tie).point ∧ (m.shortest tie).point ≤ m.place + 1) ∧
      m.Rounds (m.shortest tie).value ∧
      ∃ k' : Nat, (m.shortest tie).value = k' * unit m.place count := by
  obtain ⟨pointAt, -, -⟩ := place_spec range
  obtain ⟨c, c_pos, c_le, found⟩ := digitsFrom_spec 17 count_pos (by omega)
    (digitsOfCount?_isSome normal tie rounds)
  obtain ⟨proper, points, rounds', k', value⟩ := digitsOfCount?_eq_some normal pointAt c_pos found
  refine ⟨proper, points, rounds', k' * 10 ^ (count - c), value.trans ?_⟩
  rw [Nat.cast_mul, mul_assoc, Nat.cast_pow, Nat.cast_ofNat, unit, unit, ← zpow_natCast,
    ← zpow_add₀ (by norm_num)]
  congr 2
  omega

/-- The shortest decimal of a number rounds to it. -/
theorem IsNormal.shortest_rounds (normal : m.IsNormal) (range : InRange m.value) (tie : Tie) :
    (m.shortest tie).IsProper ∧ -400 ≤ (m.shortest tie).point ∧ (m.shortest tie).point ≤ 400 ∧
      m.Rounds (m.shortest tie).value := by
  obtain ⟨pointAt, low, high⟩ := place_spec range
  obtain ⟨k, seventeen⟩ := normal.rounds_seventeen pointAt
  obtain ⟨proper, points, rounds, -⟩ := shortest_spec normal range tie (by decide) le_rfl seventeen
  exact ⟨proper, by omega, by omega, rounds⟩

/-- Only one decimal of some places rounds to a number whose last place is finer. -/
theorem eq_of_rounds_places {places n n' : Nat} (fine : 4 * m.quarter < 1 / 10 ^ places)
    (rounds : m.Rounds (n / 10 ^ places)) (rounds' : m.Rounds (n' / 10 ^ places)) : n = n' := by
  have pos : (0 : ℚ) < 10 ^ places := by positivity
  have near := abs_le.1 rounds.abs_sub_le
  have near' := abs_le.1 rounds'.abs_sub_le
  have lt : (n : ℚ) < n' + 1 := by
    rw [← div_lt_div_iff_of_pos_right pos, add_div]
    linarith
  have lt' : (n' : ℚ) < n + 1 := by
    rw [← div_lt_div_iff_of_pos_right pos, add_div]
    linarith
  have : n < n' + 1 := by exact_mod_cast lt
  have : n' < n + 1 := by exact_mod_cast lt'
  omega

/-- A decimal of some places that rounds to a number is its shortest one where the last place of the
number is finer. -/
theorem IsNormal.shortest_value_eq (normal : m.IsNormal) (range : InRange m.value)
    {places n : Nat} (fine : 4 * m.quarter < 1 / 10 ^ places) (ge : 1 / 10 ^ places ≤ m.value)
    (rounds : m.Rounds (n / 10 ^ places)) (tie : Tie) :
    (m.shortest tie).value = n / 10 ^ places := by
  obtain ⟨pointAt, -, -⟩ := place_spec range
  have ten : (1 : ℚ) < 10 := by norm_num
  have step : (1 / 10 ^ places : ℚ) = 10 ^ (-places : ℤ) := by
    rw [zpow_neg, zpow_natCast, one_div]
  have upper : m.value < 10 ^ (16 - places : ℤ) := by
    have significand : (m.significand : ℚ) ≤ 2 ^ 53 := by exact_mod_cast normal.significand_lt.le
    calc m.value = m.significand * (4 * m.quarter) := by
          rw [value_eq]
          ring
      _ ≤ 2 ^ 53 * (4 * m.quarter) :=
          mul_le_mul_of_nonneg_right significand (by linarith [m.quarter_pos])
      _ < 2 ^ 53 * (1 / 10 ^ places) := by gcongr
      _ ≤ 10 ^ 16 * (1 / 10 ^ places) := by
          gcongr
          norm_num
      _ = 10 ^ (16 - places : ℤ) := by
          rw [step, sub_eq_add_neg, zpow_add₀ (by norm_num)]
          norm_cast
  have place_gt : (-places : ℤ) < m.place := by
    rw [← zpow_lt_zpow_iff_right₀ ten, ← step]
    exact ge.trans_lt pointAt.lt_upper
  have place_lt : m.place - 1 < 16 - places := by
    rw [← zpow_lt_zpow_iff_right₀ ten]
    exact pointAt.lower_le.trans_lt upper
  obtain ⟨count, place⟩ : ∃ count : Nat, m.place = count - places :=
    ⟨(m.place + places).toNat, by omega⟩
  have unit : ∀ k : Nat, (k : ℚ) * unit m.place count = k / 10 ^ places := by
    intro k
    rw [Magnitude.unit, place, sub_right_comm, sub_self, zero_sub, ← step, mul_one_div]
  rw [← unit] at rounds
  obtain ⟨-, -, rounds', k, value⟩ := shortest_spec normal range tie (by omega) (by omega) rounds
  rw [unit] at rounds value
  rw [value] at rounds' ⊢
  rw [eq_of_rounds_places fine rounds rounds']

end Magnitude

end Rebac.Decimal
