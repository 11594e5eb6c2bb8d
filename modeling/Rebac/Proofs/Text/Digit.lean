import Mathlib.Algebra.Group.Nat.Defs
import Rebac.Proofs.Text.Case
import Rebac.Text.Digit

/-!
# Decimal digits

A text of digits is read as the number that it denotes. Of two texts with equally many digits, the
one that denotes less comes first.
-/

namespace Rebac.Text

/-- A text of decimal digits alone. -/
def IsDecimal (cs : List Char) : Prop := ∀ c ∈ cs, c.isDigit = true

variable {c : Char} {cs ds : List Char}

theorem isDecimal_cons : IsDecimal (c :: cs) ↔ c.isDigit = true ∧ IsDecimal cs := by
  simp [IsDecimal]

theorem isDecimal_append : IsDecimal (cs ++ ds) ↔ IsDecimal cs ∧ IsDecimal ds := by
  simp [IsDecimal, or_imp, forall_and]

theorem isDecimal_zeros (n : Nat) : IsDecimal (List.replicate n '0') :=
  fun _ mem => (List.mem_replicate.1 mem).2 ▸ rfl

theorem isDecimal_toDigits (n : Nat) : IsDecimal (Nat.toDigits 10 n) :=
  fun _ mem => Nat.isDigit_of_mem_toDigits (by decide) (by decide) mem

theorem mapM_digit? (digits : IsDecimal cs) :
    cs.mapM digit? = some (cs.map fun c => c.toNat - '0'.toNat) := by
  induction cs with
  | nil => rfl
  | cons c cs ih =>
    obtain ⟨digit, digits⟩ := isDecimal_cons.1 digits
    simp [List.mapM_cons, digit?, digit, ih digits]

/-- Reading gives the number that the digits denote. -/
theorem readNat?_decimal (nonempty : cs ≠ []) (digits : IsDecimal cs) :
    readNat? 10 digit? cs = some (Nat.ofDigitChars 10 cs 0) := by
  cases cs with
  | nil => exact absurd rfl nonempty
  | cons c cs =>
    simp only [readNat?, mapM_digit? digits, Option.pure_def, Option.bind_eq_bind,
      Option.bind_some, List.foldl_map, Nat.ofDigitChars_eq_foldl]

/-- The first digit counts by its place from the right. -/
theorem ofDigitChars_cons_zero :
    Nat.ofDigitChars 10 (c :: cs) 0 =
      10 ^ cs.length * (c.toNat - '0'.toNat) + Nat.ofDigitChars 10 cs 0 := by
  rw [Nat.ofDigitChars_cons, Nat.ofDigitChars_eq_ofDigitChars_zero, Nat.mul_zero, Nat.zero_add]

/-- A number is below the power of ten that its places allow. -/
theorem ofDigitChars_lt (digits : IsDecimal cs) : Nat.ofDigitChars 10 cs 0 < 10 ^ cs.length := by
  induction cs with
  | nil => decide
  | cons c cs ih =>
    obtain ⟨digit, digits⟩ := isDecimal_cons.1 digits
    have bounds := isDigit_iff.1 digit
    have zero : '0'.toNat = 48 := rfl
    calc Nat.ofDigitChars 10 (c :: cs) 0
        = 10 ^ cs.length * (c.toNat - '0'.toNat) + Nat.ofDigitChars 10 cs 0 :=
          ofDigitChars_cons_zero
      _ < 10 ^ cs.length * (c.toNat - '0'.toNat + 1) := by
          rw [Nat.mul_add_one]
          exact Nat.add_lt_add_left (ih digits) _
      _ ≤ 10 ^ cs.length * 10 := Nat.mul_le_mul_left _ (by omega)
      _ = 10 ^ (c :: cs).length := (Nat.pow_succ ..).symm

/-- Texts of equally many digits are in the order of the numbers, whatever follows them. -/
theorem append_lt_append {x y : List Char} (digits : IsDecimal cs) (digits' : IsDecimal ds)
    (length : cs.length = ds.length)
    (lt : Nat.ofDigitChars 10 cs 0 < Nat.ofDigitChars 10 ds 0) : cs ++ x < ds ++ y := by
  induction cs generalizing ds with
  | nil =>
    cases List.length_eq_zero_iff.1 length.symm
    exact absurd lt (Nat.lt_irrefl _)
  | cons c cs ih =>
    cases ds with
    | nil => cases length
    | cons d ds =>
      obtain ⟨digit, digits⟩ := isDecimal_cons.1 digits
      obtain ⟨digit', digits'⟩ := isDecimal_cons.1 digits'
      have bounds := isDigit_iff.1 digit
      have bounds' := isDigit_iff.1 digit'
      replace length : cs.length = ds.length := Nat.succ.inj length
      rw [ofDigitChars_cons_zero, ofDigitChars_cons_zero, length] at lt
      rw [List.cons_append, List.cons_append, List.cons_lt_cons_iff]
      rcases Nat.lt_trichotomy c.toNat d.toNat with less | same | more
      · exact .inl less
      · rw [same] at lt
        exact .inr ⟨Char.toNat_inj.1 same, ih digits digits' length (by omega)⟩
      · -- The remaining digits cannot make up for a greater first one.
        have rest := ofDigitChars_lt digits'
        have zero : '0'.toNat = 48 := rfl
        have first : 10 ^ ds.length * (d.toNat - '0'.toNat + 1) ≤
            10 ^ ds.length * (c.toNat - '0'.toNat) := Nat.mul_le_mul_left _ (by omega)
        rw [Nat.mul_add_one] at first
        omega

end Rebac.Text
