import Mathlib.Algebra.Order.Field.Power
import Mathlib.Data.Rat.Cast.Order
import Mathlib.Tactic.FieldSimp
import Mathlib.Tactic.Linarith
import Mathlib.Tactic.NormNum
import Mathlib.Tactic.Positivity
import Mathlib.Tactic.Ring
import Rebac.Decimal.Shortest

/-!
# Rounding to binary numbers

A fraction is rounded to the one number between whose midpoints it lies, so that the test for these
midpoints and the rounding itself agree.
-/

namespace Rebac.Decimal

/-! ## Scaling by powers of two -/

theorem scaleDown_pos (num : Nat) {den : Nat} (den_pos : 0 < den) (e : Int) :
    0 < (scaleDown num den e).2 := by
  unfold scaleDown
  split
  · exact Nat.mul_pos den_pos (Nat.pow_pos (by decide))
  · exact den_pos

theorem scaleDown_eq (num den : Nat) (e : Int) :
    ((scaleDown num den e).1 : ℚ) / (scaleDown num den e).2 = num / den / 2 ^ e := by
  unfold scaleDown
  split
  next nonneg =>
    obtain ⟨k, rfl⟩ := Int.eq_ofNat_of_zero_le nonneg
    simp [Nat.pow_eq, div_div]
  next negative =>
    obtain ⟨k, rfl⟩ : ∃ k : Nat, e = -k := ⟨(-e).toNat, by omega⟩
    simp [Nat.pow_eq, div_eq_mul_inv, mul_right_comm]

/-- The binary logarithm of a fraction, rounded down. -/
theorem floorLog2_spec {num den : Nat} (num_pos : 0 < num) (den_pos : 0 < den) :
    (2 : ℚ) ^ floorLog2 num den ≤ num / den ∧ (num / den : ℚ) < 2 ^ (floorLog2 num den + 1) := by
  have den_pos' : (0 : ℚ) < den := Nat.cast_pos.2 den_pos
  -- The difference of the logarithms is at most one too large.
  have numLower : (2 : ℚ) ^ (num.log2 : ℤ) ≤ num := by
    exact_mod_cast Nat.log2_self_le num_pos.ne'
  have numUpper : (num : ℚ) < 2 ^ (num.log2 + 1 : ℤ) := by
    exact_mod_cast Nat.lt_log2_self
  have denLower : (2 : ℚ) ^ (den.log2 : ℤ) ≤ den := by
    exact_mod_cast Nat.log2_self_le den_pos.ne'
  have denUpper : (den : ℚ) < 2 ^ (den.log2 + 1 : ℤ) := by
    exact_mod_cast Nat.lt_log2_self
  have lower : (2 : ℚ) ^ (num.log2 - den.log2 - 1 : ℤ) ≤ num / den := by
    rw [le_div_iff₀ den_pos']
    calc (2 : ℚ) ^ (num.log2 - den.log2 - 1 : ℤ) * den
        ≤ 2 ^ (num.log2 - den.log2 - 1 : ℤ) * 2 ^ (den.log2 + 1 : ℤ) := by gcongr
      _ = 2 ^ (num.log2 : ℤ) := by
          rw [← zpow_add₀ two_ne_zero]
          congr 1
          ring
      _ ≤ num := numLower
  have upper : (num / den : ℚ) < 2 ^ (num.log2 - den.log2 + 1 : ℤ) := by
    rw [div_lt_iff₀ den_pos']
    calc (num : ℚ) < 2 ^ (num.log2 + 1 : ℤ) := numUpper
      _ = 2 ^ (num.log2 - den.log2 + 1 : ℤ) * 2 ^ (den.log2 : ℤ) := by
          rw [← zpow_add₀ two_ne_zero]
          congr 1
          ring
      _ ≤ 2 ^ (num.log2 - den.log2 + 1 : ℤ) * den := by gcongr
  have reached : (scaleDown num den (num.log2 - den.log2)).2 ≤
      (scaleDown num den (num.log2 - den.log2)).1 ↔
        (2 : ℚ) ^ (num.log2 - den.log2 : ℤ) ≤ num / den := by
    have pos := scaleDown_pos num den_pos (num.log2 - den.log2)
    rw [← Nat.cast_le (α := ℚ), ← one_le_div (Nat.cast_pos.2 pos), scaleDown_eq,
      one_le_div (by positivity)]
  simp only [floorLog2, reached]
  split
  next guess => exact ⟨guess, upper⟩
  next guess => exact ⟨lower, by simpa using guess⟩

/-- The nearest whole number, a tie to the even one. -/
theorem roundDiv_spec (num : Nat) {den : Nat} (den_pos : 0 < den) :
    |(num / den : ℚ) - roundDiv num den| ≤ 1 / 2 ∧
      (|(num / den : ℚ) - roundDiv num den| = 1 / 2 → roundDiv num den % 2 = 0) := by
  have den_pos' : (0 : ℚ) < den := Nat.cast_pos.2 den_pos
  have division : (num / den : ℚ) = (num / den : Nat) + (num % den : Nat) / den := by
    rw [div_eq_iff den_pos'.ne', add_mul, div_mul_cancel₀ _ den_pos'.ne']
    exact_mod_cast (Nat.div_add_mod' num den).symm
  have rest : (num % den : Nat) / (den : ℚ) < 1 := by
    rw [div_lt_one den_pos']
    exact_mod_cast Nat.mod_lt num den_pos
  have rest_nonneg : 0 ≤ (num % den : Nat) / (den : ℚ) := by positivity
  have half : ∀ r : Nat, 2 * r < den ↔ (r / den : ℚ) < 1 / 2 := by
    intro r
    rw [div_lt_iff₀ den_pos', ← Nat.cast_lt (α := ℚ)]
    push_cast
    constructor <;> intro <;> linarith
  have half' : ∀ r : Nat, den < 2 * r ↔ 1 / 2 < (r / den : ℚ) := by
    intro r
    rw [lt_div_iff₀ den_pos', ← Nat.cast_lt (α := ℚ)]
    push_cast
    constructor <;> intro <;> linarith
  rw [division]
  unfold roundDiv
  simp only [half, half']
  generalize (num % den : Nat) / (den : ℚ) = r at *
  generalize num / den = q
  split
  next low =>
    rw [add_sub_cancel_left, abs_of_nonneg rest_nonneg]
    exact ⟨low.le, fun tie => absurd tie low.ne⟩
  split
  next _ high =>
    have distance : |(q + r - (q + 1 : Nat) : ℚ)| = 1 - r := by
      push_cast
      rw [show (q + r - (q + 1) : ℚ) = -(1 - r) by ring, abs_neg, abs_of_pos (by linarith)]
    rw [distance]
    exact ⟨by linarith, fun tie => by linarith⟩
  next low high =>
    have tie : r = 1 / 2 := by linarith
    obtain even | odd := Nat.mod_two_eq_zero_or_one q
    · rw [even, tie]
      norm_num
      exact even
    · rw [odd, tie]
      push_cast
      norm_num
      omega

/-! ## The fractions that round to a number -/

namespace Magnitude

variable {m m' : Magnitude} {x y z : ℚ}

/-- The number as a fraction. -/
def value (m : Magnitude) : ℚ := m.significand * 2 ^ m.exponent

/-- A number with all its 53 places. -/
structure IsNormal (m : Magnitude) : Prop where
  significand_ge : 2 ^ 52 ≤ m.significand
  significand_lt : m.significand < 2 ^ 53
  exponent_ge : -1074 ≤ m.exponent

/-- A quarter of the last place. -/
def quarter (m : Magnitude) : ℚ := 2 ^ (m.exponent - 2)

/-- The quarters down to the midpoint below. -/
def below (m : Magnitude) : Nat :=
  if m.significand = 2 ^ 52 ∧ -1074 < m.exponent then 1 else 2

/-- The midpoint to the number below. -/
def lower (m : Magnitude) : ℚ := (4 * m.significand - m.below) * m.quarter

/-- The midpoint to the number above. -/
def upper (m : Magnitude) : ℚ := (4 * m.significand + 2) * m.quarter

/-- A fraction between the midpoints. Only an even number has the midpoints themselves. -/
structure Rounds (m : Magnitude) (x : ℚ) : Prop where
  lower_le : m.lower ≤ x
  le_upper : x ≤ m.upper
  even_of_end : x = m.lower ∨ x = m.upper → m.significand % 2 = 0

theorem quarter_pos (m : Magnitude) : 0 < m.quarter := by
  unfold quarter
  positivity

theorem quarter_le_of_exponent_le {k : Nat} (exponent : m.exponent ≤ 2 - k) :
    m.quarter ≤ 1 / 2 ^ k := by
  rw [one_div, ← zpow_natCast, ← zpow_neg]
  exact zpow_le_zpow_right₀ one_le_two (by omega)

theorem two_zpow_exponent (m : Magnitude) : (2 : ℚ) ^ m.exponent = 4 * m.quarter := by
  rw [quarter, zpow_sub₀ two_ne_zero]
  field_simp
  norm_num

theorem value_eq (m : Magnitude) : m.value = 4 * m.significand * m.quarter := by
  rw [value, two_zpow_exponent]
  ring

theorem toRatio_pos (m : Magnitude) : 0 < m.toRatio.2 := scaleDown_pos _ Nat.one_pos _

theorem toRatio_eq (m : Magnitude) : (m.toRatio.1 / m.toRatio.2 : ℚ) = m.value := by
  rw [toRatio, scaleDown_eq, value, zpow_neg, Nat.cast_one, div_one, div_inv_eq_mul]

theorem one_le_below (m : Magnitude) : 1 ≤ m.below := by
  unfold below
  split <;> decide

theorem below_le_two (m : Magnitude) : m.below ≤ 2 := by
  unfold below
  split <;> decide

theorem lower_lt_value (m : Magnitude) : m.lower < m.value := by
  have below : (1 : ℚ) ≤ m.below := by exact_mod_cast m.one_le_below
  rw [lower, value_eq]
  exact mul_lt_mul_of_pos_right (by linarith) m.quarter_pos

theorem value_lt_upper (m : Magnitude) : m.value < m.upper := by
  rw [upper, value_eq]
  exact mul_lt_mul_of_pos_right (by linarith) m.quarter_pos

theorem rounds_of_lt_of_lt (lower : m.lower < x) (upper : x < m.upper) : m.Rounds x where
  lower_le := lower.le
  le_upper := upper.le
  even_of_end := by
    rintro (low | high)
    · exact absurd low lower.ne'
    · exact absurd high upper.ne

theorem rounds_value (m : Magnitude) : m.Rounds m.value :=
  rounds_of_lt_of_lt m.lower_lt_value m.value_lt_upper

/-- What lies between fractions that round to a number rounds to it. -/
theorem Rounds.convex (left : m.Rounds x) (right : m.Rounds z) (le : x ≤ y) (le' : y ≤ z) :
    m.Rounds y where
  lower_le := left.lower_le.trans le
  le_upper := le'.trans right.le_upper
  even_of_end := by
    rintro (low | high)
    · exact left.even_of_end (.inl (le_antisymm (low ▸ le) left.lower_le))
    · exact right.even_of_end (.inr (le_antisymm right.le_upper (high ▸ le')))

/-- Rounding moves a fraction by half of the last place at most. -/
theorem Rounds.abs_sub_le (rounds : m.Rounds x) : |x - m.value| ≤ 2 * m.quarter := by
  have below : (m.below : ℚ) ≤ 2 := by exact_mod_cast m.below_le_two
  have low : m.below * m.quarter ≤ 2 * m.quarter :=
    mul_le_mul_of_nonneg_right below m.quarter_pos.le
  have lower := rounds.lower_le
  have upper := rounds.le_upper
  rw [Magnitude.lower, sub_mul] at lower
  rw [Magnitude.upper, add_mul] at upper
  rw [value_eq, abs_le]
  constructor <;> linarith

/-- A whole number is kept where the last place is one of a fraction. -/
theorem Rounds.value_eq_natCast {n : Nat} (rounds : m.Rounds n) (fraction : m.exponent ≤ 0) :
    m.value = n := by
  obtain ⟨j, exponent⟩ : ∃ j : Nat, m.exponent = -j := ⟨(-m.exponent).toNat, by omega⟩
  have pos : (0 : ℚ) < 2 ^ j := by positivity
  have scaled : m.value * 2 ^ j = m.significand := by
    rw [value, exponent, zpow_neg, zpow_natCast, inv_mul_cancel_right₀ pos.ne']
  have half : 2 * m.quarter * 2 ^ j = 1 / 2 := by
    have place := m.two_zpow_exponent
    rw [exponent, zpow_neg, zpow_natCast] at place
    have inverse := inv_mul_cancel₀ pos.ne'
    rw [place] at inverse
    linarith
  obtain ⟨lower, upper⟩ := abs_le.1 rounds.abs_sub_le
  have le : ((n * 2 ^ j : Nat) : ℚ) < m.significand + 1 := by
    have := mul_le_mul_of_nonneg_right upper pos.le
    rw [sub_mul, scaled, half] at this
    push_cast
    linarith
  have ge : (m.significand : ℚ) < (n * 2 ^ j : Nat) + 1 := by
    have := mul_le_mul_of_nonneg_right lower pos.le
    rw [neg_mul, half, sub_mul, scaled] at this
    push_cast
    linarith
  have same : m.significand = n * 2 ^ j := by
    have : n * 2 ^ j < m.significand + 1 := by exact_mod_cast le
    have : m.significand < n * 2 ^ j + 1 := by exact_mod_cast ge
    omega
  refine mul_right_cancel₀ pos.ne' ?_
  rw [scaled, same]
  push_cast
  rfl

namespace IsNormal

theorem below_le (normal : m.IsNormal) : m.below ≤ 4 * m.significand :=
  m.below_le_two.trans (by have := normal.significand_ge; omega)

theorem quarter_le (normal : m.IsNormal) : 2 * m.quarter ≤ m.value / 2 ^ 53 := by
  have significand : (2 : ℚ) ^ 52 ≤ m.significand := by exact_mod_cast normal.significand_ge
  have := m.quarter_pos
  rw [value_eq, le_div_iff₀ (by positivity)]
  nlinarith

theorem value_pos (normal : m.IsNormal) : 0 < m.value := by
  have := normal.quarter_le
  have := m.quarter_pos
  linarith

/-- Rounding moves a fraction by a small part of it. -/
theorem abs_sub_le (normal : m.IsNormal) (rounds : m.Rounds x) : |x - m.value| ≤ x / 2 ^ 52 := by
  have half := rounds.abs_sub_le.trans normal.quarter_le
  refine half.trans ?_
  have := normal.value_pos
  have := (abs_le.1 half).1
  linarith

/-- Of two numbers, the smaller one. -/
def Before (m m' : Magnitude) : Prop :=
  m.exponent < m'.exponent ∨ m.exponent = m'.exponent ∧ m.significand < m'.significand

/-- The midpoints of different numbers do not overlap, and where they meet only one of the numbers
is even. -/
theorem not_rounds_of_before (normal : m.IsNormal) (normal' : m'.IsNormal) (before : Before m m')
    (rounds : m.Rounds x) : ¬ m'.Rounds x := by
  intro rounds'
  obtain ⟨j, exponent⟩ : ∃ j : Nat, m'.exponent = m.exponent + j :=
    ⟨(m'.exponent - m.exponent).toNat, by unfold Before at before; omega⟩
  have quarter : m'.quarter = 2 ^ j * m.quarter := by
    rw [Magnitude.quarter, Magnitude.quarter, exponent, add_sub_right_comm,
      zpow_add₀ two_ne_zero, zpow_natCast, mul_comm]
  have lower : m'.lower = ((4 * m'.significand - m'.below) * 2 ^ j : ℤ) * m.quarter := by
    rw [Magnitude.lower, quarter]
    push_cast
    ring
  have upper : m.upper = (4 * m.significand + 2 : ℤ) * m.quarter := by
    rw [Magnitude.upper]
    push_cast
    rfl
  have overlap : (4 * m'.significand - m'.below) * 2 ^ j ≤ (4 * m.significand + 2 : ℤ) := by
    have le := rounds'.lower_le.trans rounds.le_upper
    rw [lower, upper] at le
    exact_mod_cast le_of_mul_le_mul_right le m.quarter_pos
  have meet : (4 * m'.significand - m'.below) * 2 ^ j = (4 * m.significand + 2 : ℤ) →
      m.significand % 2 = 0 ∧ m'.significand % 2 = 0 := by
    intro same
    have ends : m'.lower = m.upper := by rw [lower, upper, same]
    exact ⟨rounds.even_of_end (.inr (le_antisymm rounds.le_upper (ends ▸ rounds'.lower_le))),
      rounds'.even_of_end (.inl (le_antisymm (ends ▸ rounds.le_upper) rounds'.lower_le))⟩
  have significand := normal.significand_lt
  have below := m'.below_le_two
  cases j with
  | zero =>
    have less : m.significand < m'.significand := by
      unfold Before at before
      omega
    rw [pow_zero, mul_one] at overlap meet
    obtain ⟨even, even'⟩ := meet (by omega)
    omega
  | succ j =>
    -- Numbers of the next exponent start where those of this one end.
    have start : 2 ^ 54 - 1 ≤ (4 * m'.significand - m'.below : ℤ) := by
      have ge := normal'.significand_ge
      have exponent_ge := normal.exponent_ge
      by_cases least : m'.significand = 2 ^ 52
      · have one : m'.below = 1 := if_pos ⟨least, by omega⟩
        rw [least, one]
        norm_num
      · omega
    have double : 2 ^ 55 - 2 ≤ ((4 * m'.significand - m'.below) * 2 ^ (j + 1) : ℤ) :=
      calc (2 ^ 55 - 2 : ℤ) = (2 ^ 54 - 1) * 2 ^ 1 := by norm_num
        _ ≤ (4 * m'.significand - m'.below) * 2 ^ (j + 1) :=
          mul_le_mul start (pow_le_pow_right₀ (by norm_num) (by omega)) (by norm_num) (by omega)
    have := (meet (by omega)).1
    omega

/-- A fraction rounds to one number alone. -/
theorem eq_of_rounds (normal : m.IsNormal) (normal' : m'.IsNormal) (rounds : m.Rounds x)
    (rounds' : m'.Rounds x) : m = m' := by
  by_contra different
  have before : Before m m' ∨ Before m' m := by
    cases m
    cases m'
    simp only [Before, mk.injEq] at different ⊢
    omega
  rcases before with before | before
  · exact normal.not_rounds_of_before normal' before rounds rounds'
  · exact normal'.not_rounds_of_before normal before rounds' rounds

end IsNormal

/-- The test of the midpoints. -/
theorem isRoundingOf_iff (normal : m.IsNormal) {num den : Nat} (den_pos : 0 < den) :
    m.isRoundingOf num den = true ↔ m.Rounds (num / den) := by
  have pos := scaleDown_pos num den_pos (m.exponent - 2)
  have eq := scaleDown_eq num den (m.exponent - 2)
  have below : (if m.significand = Nat.pow 2 52 ∧ -1074 < m.exponent then 1 else 2) = m.below := rfl
  have lower : m.lower = (4 * m.significand - m.below : Nat) * m.quarter := by
    rw [Magnitude.lower, Nat.cast_sub normal.below_le, Nat.cast_mul]
    rfl
  have upper : m.upper = (4 * m.significand + 2 : Nat) * m.quarter := by
    rw [Magnitude.upper, Nat.cast_add, Nat.cast_mul]
    rfl
  simp only [isRoundingOf, below]
  generalize (scaleDown num den (m.exponent - 2)).1 = n at *
  generalize (scaleDown num den (m.exponent - 2)).2 = d at *
  have pos' : (0 : ℚ) < d := Nat.cast_pos.2 pos
  have scaled : (num / den : ℚ) = n / d * m.quarter := by
    rw [eq, quarter, div_mul_cancel₀ _ (zpow_ne_zero _ two_ne_zero)]
  have atLeast : ∀ k : Nat, k * d ≤ n ↔ (k * m.quarter : ℚ) ≤ num / den := by
    intro k
    rw [scaled, mul_le_mul_iff_left₀ m.quarter_pos, le_div_iff₀ pos', ← Nat.cast_mul, Nat.cast_le]
  have atMost : ∀ k : Nat, n ≤ k * d ↔ (num / den : ℚ) ≤ k * m.quarter := by
    intro k
    rw [scaled, mul_le_mul_iff_left₀ m.quarter_pos, div_le_iff₀ pos', ← Nat.cast_mul, Nat.cast_le]
  split
  next even =>
    rw [Bool.and_eq_true, decide_eq_true_iff, decide_eq_true_iff, atLeast, atMost, ← lower, ← upper]
    exact ⟨fun ⟨low, high⟩ => ⟨low, high, fun _ => even⟩,
      fun rounds => ⟨rounds.lower_le, rounds.le_upper⟩⟩
  next odd =>
    rw [Bool.and_eq_true, decide_eq_true_iff, decide_eq_true_iff, ← not_le, ← not_le, atLeast,
      atMost, ← lower, ← upper, not_le, not_le]
    refine ⟨fun ⟨low, high⟩ => rounds_of_lt_of_lt low high, fun rounds => ⟨?_, ?_⟩⟩
    · exact lt_of_le_of_ne rounds.lower_le fun same => odd (rounds.even_of_end (.inl same.symm))
    · exact lt_of_le_of_ne rounds.le_upper fun same => odd (rounds.even_of_end (.inr same))

/-! ## Rounding -/

/-- A fraction well inside the range of the format. -/
structure InRange (x : ℚ) : Prop where
  lower_le : 2 ^ (-1022 : ℤ) ≤ x
  lt_upper : x < 2 ^ (1023 : ℤ)

/-- The nearest whole number of last places. Those of the exponent begin a quarter below its least
number. -/
theorem rounds_of_near {significand : Nat} {exponent : Int} {y : ℚ} (lower : 2 ^ 52 - 1 / 4 ≤ y)
    (near : |y - significand| ≤ 1 / 2) (tie : |y - significand| = 1 / 2 → significand % 2 = 0) :
    Rounds ⟨significand, exponent⟩ (y * 2 ^ exponent) := by
  generalize number : Magnitude.mk significand exponent = m
  have significand_eq : m.significand = significand := number ▸ rfl
  have scaled : y * 2 ^ exponent = 4 * y * m.quarter := by
    rw [show exponent = m.exponent from number ▸ rfl, two_zpow_exponent]
    ring
  have pos := m.quarter_pos
  have near' := abs_le.1 near
  have low : (4 * m.significand - m.below : ℚ) ≤ 4 * y ∧
      (4 * y = 4 * m.significand - m.below → m.significand % 2 = 0) := by
    rw [significand_eq]
    unfold below
    split
    next least =>
      rw [← significand_eq, least.1]
      push_cast
      exact ⟨by linarith, fun _ => by norm_num⟩
    next =>
      push_cast
      refine ⟨by linarith, fun same => tie ?_⟩
      rw [abs_eq (by norm_num)]
      exact .inr (by linarith)
  have high : (4 * y : ℚ) ≤ 4 * m.significand + 2 ∧
      (4 * y = 4 * m.significand + 2 → m.significand % 2 = 0) := by
    rw [significand_eq]
    refine ⟨by linarith, fun same => tie ?_⟩
    rw [abs_eq (by norm_num)]
    exact .inl (by linarith)
  rw [scaled]
  refine ⟨mul_le_mul_of_nonneg_right low.1 pos.le, mul_le_mul_of_nonneg_right high.1 pos.le, ?_⟩
  rintro (same | same)
  · exact low.2 (mul_right_cancel₀ pos.ne' same)
  · exact high.2 (mul_right_cancel₀ pos.ne' same)

/-- A number that is carried starts the next exponent, whose last place is twice as much. -/
theorem rounds_of_carry {exponent : Int} {y : ℚ} (near : |y - (2 ^ 53 : Nat)| ≤ 1 / 2) :
    Rounds ⟨2 ^ 52, exponent + 1⟩ (y * 2 ^ exponent) := by
  have next : y * 2 ^ exponent = y / 2 * 2 ^ (exponent + 1) := by
    rw [zpow_add_one₀ two_ne_zero]
    ring
  have near' := abs_le.1 near
  push_cast at near'
  rw [next]
  refine rounds_of_near (by linarith) ?_ fun _ => by norm_num
  rw [abs_le]
  push_cast
  constructor <;> linarith

/-- The exponent that gives a fraction its 53 places. -/
theorem exists_exponent {num den : Nat} (num_pos : 0 < num) (den_pos : 0 < den)
    (range : InRange (num / den)) :
    ∃ e, floorLog2 num den = e + 52 ∧ -1074 ≤ e ∧ e < 971 ∧
      2 ^ 52 ≤ (num / den / 2 ^ e : ℚ) ∧ (num / den / 2 ^ e : ℚ) < 2 ^ 53 := by
  obtain ⟨lower, upper⟩ := floorLog2_spec num_pos den_pos
  have logLower : -1022 < floorLog2 num den + 1 :=
    (zpow_lt_zpow_iff_right₀ one_lt_two).1 (range.lower_le.trans_lt upper)
  have logUpper : floorLog2 num den < 1023 :=
    (zpow_lt_zpow_iff_right₀ one_lt_two).1 (lower.trans_lt range.lt_upper)
  obtain ⟨e, log⟩ : ∃ e, floorLog2 num den = e + 52 := ⟨floorLog2 num den - 52, by ring⟩
  have pow_pos : (0 : ℚ) < 2 ^ e := by positivity
  rw [log] at lower upper
  rw [add_assoc] at upper
  refine ⟨e, log, by omega, by omega, ?_, ?_⟩
  · rw [le_div_iff₀ pow_pos, ← zpow_natCast, ← zpow_add₀ two_ne_zero, add_comm]
    exact lower
  · rw [div_lt_iff₀ pow_pos, ← zpow_natCast, ← zpow_add₀ two_ne_zero, add_comm]
    exact upper

/-- A fraction is rounded to a number between whose midpoints it lies. -/
theorem ofRatio?_spec {num den : Nat} (num_pos : 0 < num) (den_pos : 0 < den)
    (range : InRange (num / den)) :
    ∃ m, ofRatio? num den = some m ∧ m.IsNormal ∧ m.Rounds (num / den) := by
  obtain ⟨e, log, low_e, high_e, low, high⟩ := exists_exponent num_pos den_pos range
  have exponent : max (floorLog2 num den - 52) (-1074) = e := by omega
  have scaled : (num / den : ℚ) = num / den / 2 ^ e * 2 ^ e :=
    (div_mul_cancel₀ _ (zpow_ne_zero _ two_ne_zero)).symm
  have eq := scaleDown_eq num den e
  obtain ⟨near, tie⟩ := roundDiv_spec (scaleDown num den e).1 (scaleDown_pos num den_pos e)
  simp only [ofRatio?, if_neg num_pos.ne', exponent, Nat.pow_eq]
  rw [scaled]
  rw [eq] at near tie
  generalize roundDiv (scaleDown num den e).1 (scaleDown num den e).2 = significand at *
  generalize (num / den / 2 ^ e : ℚ) = y at *
  have near' := abs_le.1 near
  have ge : 2 ^ 52 ≤ significand := by
    have : (2 ^ 52 : ℚ) < significand + 1 := by linarith
    have : 2 ^ 52 < significand + 1 := by exact_mod_cast this
    omega
  have le : significand ≤ 2 ^ 53 := by
    have : (significand : ℚ) < 2 ^ 53 + 1 := by linarith
    have : significand < 2 ^ 53 + 1 := by exact_mod_cast this
    omega
  by_cases carried : significand = 2 ^ 53
  · rw [if_pos carried, if_neg (by simp only; omega)]
    exact ⟨_, rfl, ⟨le_rfl, by norm_num, by simp only; omega⟩, rounds_of_carry (carried ▸ near)⟩
  · rw [if_neg carried, if_neg (by simp only; omega)]
    exact ⟨_, rfl, ⟨ge, by simp only; omega, by simp only; omega⟩,
      rounds_of_near (by linarith) near tie⟩

/-- Rounding gives the number between whose midpoints a fraction lies. -/
theorem ofRatio?_eq_some_iff (normal : m.IsNormal) {num den : Nat} (num_pos : 0 < num)
    (den_pos : 0 < den) (range : InRange (num / den)) :
    ofRatio? num den = some m ↔ m.Rounds (num / den) := by
  obtain ⟨found, eq, normal', rounds⟩ := ofRatio?_spec num_pos den_pos range
  rw [eq, Option.some.injEq]
  exact ⟨fun same => same ▸ rounds, normal'.eq_of_rounds normal rounds⟩

/-- The sum of two numbers is rounded once. -/
theorem add?_spec {a b : Magnitude} (range : InRange (a.value + b.value)) :
    ∃ m, a.add? b = some m ∧ m.IsNormal ∧ m.Rounds (a.value + b.value) := by
  have pos := a.toRatio_pos
  have pos' := b.toRatio_pos
  have sum : ((a.toRatio.1 * b.toRatio.2 + b.toRatio.1 * a.toRatio.2 : Nat) : ℚ) /
      (a.toRatio.2 * b.toRatio.2 : Nat) = a.value + b.value := by
    rw [← toRatio_eq a, ← toRatio_eq b, div_add_div _ _ (by positivity) (by positivity)]
    push_cast
    ring
  have num_pos : 0 < a.toRatio.1 * b.toRatio.2 + b.toRatio.1 * a.toRatio.2 := by
    rw [Nat.pos_iff_ne_zero]
    intro zero
    rw [zero, Nat.cast_zero, zero_div] at sum
    exact absurd (sum ▸ range.lower_le) (not_le.2 (by positivity))
  have spec := ofRatio?_spec num_pos (Nat.mul_pos pos pos') (sum ▸ range)
  rwa [sum] at spec

/-- A fraction that is clearly below a power of two rounds to a number of an exponent below that
power. -/
theorem IsNormal.exponent_lt (normal : m.IsNormal) (rounds : m.Rounds x) {k : Int}
    (lt : x < 2 ^ k - 2 ^ (k - 53)) : m.exponent < k - 52 := by
  by_contra ge
  have quarter : (2 : ℚ) ^ (k - 54) ≤ m.quarter :=
    zpow_le_zpow_right₀ one_le_two (by omega)
  have lower : (2 ^ 54 - 2) * m.quarter ≤ m.lower := by
    have significand : (2 ^ 52 : ℚ) ≤ m.significand := by exact_mod_cast normal.significand_ge
    have below : (m.below : ℚ) ≤ 2 := by exact_mod_cast m.below_le_two
    exact mul_le_mul_of_nonneg_right (by linarith) m.quarter_pos.le
  have power : (2 : ℚ) ^ k = 2 ^ 54 * 2 ^ (k - 54) := by
    rw [← zpow_natCast, ← zpow_add₀ two_ne_zero]
    congr 1
    push_cast
    ring
  have power' : (2 : ℚ) ^ (k - 53) = 2 * 2 ^ (k - 54) := by
    rw [← zpow_one_add₀ two_ne_zero]
    congr 1
    ring
  have := rounds.lower_le
  rw [power, power'] at lt
  linarith

end Magnitude

end Rebac.Decimal
