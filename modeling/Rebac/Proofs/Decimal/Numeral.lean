import Mathlib.Data.List.TakeWhile
import Rebac.Decimal.Layout
import Rebac.Proofs.Decimal.Shortest
import Rebac.Proofs.Text.Digit

/-!
# Plain numerals

A decimal that is laid out without an exponent is read back as the same number.
-/

namespace Rebac.Decimal

open Text

/-- The number that a plain numeral denotes: digits, and perhaps a point and more digits. There is
neither a sign nor an exponent. -/
def numeral? (cs : List Char) : Option ℚ := do
  let whole ← readNat? 10 digit? (cs.takeWhile Char.isDigit)
  match cs.dropWhile Char.isDigit with
  | [] => return whole
  | '.' :: places => do return whole + (← readNat? 10 digit? places) / 10 ^ places.length
  | _ => none

section

variable {whole places : List Char}

theorem numeral?_whole (nonempty : whole ≠ []) (digits : IsDecimal whole) :
    numeral? whole = some (Nat.ofDigitChars 10 whole 0 : ℚ) := by
  rw [numeral?, List.takeWhile_eq_self_iff.2 digits, List.dropWhile_eq_nil_iff.2 digits,
    readNat?_decimal nonempty digits]
  rfl

/-- Behind the point, the digits count as a fraction by their number. -/
theorem numeral?_places (nonempty : whole ≠ []) (digits : IsDecimal whole)
    (nonempty' : places ≠ []) (digits' : IsDecimal places) :
    numeral? (whole ++ '.' :: places) = some
      (Nat.ofDigitChars 10 whole 0 + Nat.ofDigitChars 10 places 0 / 10 ^ places.length : ℚ) := by
  have before : (whole ++ '.' :: places).takeWhile Char.isDigit = whole := by
    rw [List.takeWhile_append_of_pos digits]
    exact List.append_nil whole
  have after : (whole ++ '.' :: places).dropWhile Char.isDigit = '.' :: places := by
    rw [List.dropWhile_append_of_pos digits]
    rfl
  simp only [numeral?, before, after, readNat?_decimal nonempty digits,
    readNat?_decimal nonempty' digits', Option.bind_eq_bind, Option.bind_some]
  rfl

end

theorem numeral?_toDigits (n : Nat) : numeral? (Nat.toDigits 10 n) = some (n : ℚ) := by
  rw [numeral?_whole Nat.toDigits_ne_nil (isDecimal_toDigits n), Nat.ofDigitChars_ten_toDigits]

namespace Digits

variable {d : Digits}

theorem IsProper.length_toChars (proper : d.IsProper) : d.toChars.length = d.count := by
  have le := (Nat.length_toDigits_le_iff (b := 10) (by decide) proper.count_pos).2 proper.digits_lt
  refine le_antisymm le ?_
  by_cases one : d.count = 1
  · rw [one]
    exact Nat.length_toDigits_pos
  · have ge := proper.digits_ge
    have pos := proper.count_pos
    rw [← Nat.not_lt, ← Nat.length_toDigits_le_iff (b := 10) (by decide) (by omega)] at ge
    simp only [toChars] at ge ⊢
    omega

theorem ofDigitChars_toChars (d : Digits) : Nat.ofDigitChars 10 d.toChars 0 = d.digits :=
  Nat.ofDigitChars_ten_toDigits

/-- A decimal laid out around its point. -/
theorem numeral?_layout (proper : d.IsProper) (low : -400 ≤ d.point) (high : d.point ≤ 400) :
    numeral? (d.layout .positional) = some d.value := by
  have length := proper.length_toChars
  have value := d.ofDigitChars_toChars
  have nonempty : d.toChars ≠ [] := Nat.toDigits_ne_nil
  have digits : IsDecimal d.toChars := isDecimal_toDigits _
  simp only [layout, Layout.positional, low, high, and_self, if_true, Bool.false_eq_true, if_false,
    List.append_nil, Digits.value, ← value, ← length]
  generalize d.toChars = cs at *
  split
  next small =>
    -- Zeros stand between the point and the digits.
    obtain ⟨zeros, point⟩ : ∃ n : Nat, d.point = -n := ⟨(-d.point).toNat, by omega⟩
    have text : '0' :: '.' :: List.replicate (-d.point).toNat '0' ++ cs =
        ['0'] ++ '.' :: (List.replicate zeros '0' ++ cs) := by
      rw [point, neg_neg, Int.toNat_natCast]
      rfl
    rw [text, numeral?_places (by simp) (by simp [IsDecimal]) (by simp [nonempty])
      (isDecimal_append.2 ⟨isDecimal_zeros _, digits⟩), Nat.ofDigitChars_append,
      Nat.ofDigitChars_replicate_zero, Nat.mul_zero, List.length_append, List.length_replicate,
      point, ← neg_add', zpow_neg, ← div_eq_mul_inv]
    norm_cast
    simp [Nat.ofDigitChars_cons]
  next =>
    obtain ⟨point, same⟩ : ∃ n : Nat, d.point = n := ⟨d.point.toNat, by omega⟩
    rw [same, Int.toNat_natCast]
    split
    next inner =>
      have parts : (Nat.ofDigitChars 10 cs 0 : ℚ) =
          10 ^ (cs.length - point) * Nat.ofDigitChars 10 (cs.take point) 0 +
            Nat.ofDigitChars 10 (cs.drop point) 0 := by
        rw [← cs.take_append_drop point, Nat.ofDigitChars_append,
          Nat.ofDigitChars_eq_ofDigitChars_zero]
        simp
      have taken : cs.take point ≠ [] := by
        rw [ne_eq, List.take_eq_nil_iff, not_or]
        exact ⟨by omega, nonempty⟩
      have dropped : cs.drop point ≠ [] := by
        rw [ne_eq, List.drop_eq_nil_iff]
        omega
      rw [numeral?_places taken (fun c mem => digits c (List.mem_of_mem_take mem)) dropped
        (fun c mem => digits c (List.mem_of_mem_drop mem)), List.length_drop, parts,
        show (point - cs.length : ℤ) = -(cs.length - point : Nat) by omega, zpow_neg, zpow_natCast]
      field_simp
    next =>
      rw [numeral?_whole (by simp [nonempty]) (isDecimal_append.2 ⟨digits, isDecimal_zeros _⟩),
        Nat.ofDigitChars_append, Nat.ofDigitChars_replicate_zero,
        show (point - cs.length : ℤ) = (point - cs.length : Nat) by omega, zpow_natCast]
      push_cast
      rw [mul_comm]

end Digits

end Rebac.Decimal
