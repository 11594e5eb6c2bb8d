import Rebac.Text.Affix
import Rebac.Text.Case

/-!
# Letter case in ASCII

How the full Unicode letter case looks on ASCII letters: it agrees with the ASCII classes there, and
no character has an ASCII capital in its lower-case form or a small ASCII letter in its upper-case
form.
-/

namespace Rebac.Text

theorem isUpper_iff {c : Char} : c.isUpper = true ↔ 65 ≤ c.toNat ∧ c.toNat ≤ 90 := by
  have range : c.isUpper = decide (65 ≤ c.val ∧ c.val ≤ 90) := rfl
  simp [range, UInt32.le_iff_toNat_le, ← Char.toNat_val]

theorem isLower_eq (c : Char) : c.isLower = (decide (97 ≤ c.val) && decide (c.val ≤ 122)) := rfl

theorem isAlpha_eq (c : Char) : c.isAlpha = (c.isUpper || c.isLower) := rfl

theorem isLower_iff {c : Char} : c.isLower = true ↔ 97 ≤ c.toNat ∧ c.toNat ≤ 122 := by
  simp [isLower_eq, UInt32.le_iff_toNat_le, ← Char.toNat_val]

theorem isDigit_iff {c : Char} : c.isDigit = true ↔ 48 ≤ c.toNat ∧ c.toNat ≤ 57 := by
  simp [Char.isDigit, UInt32.le_iff_toNat_le, ← Char.toNat_val]

/-- A number that is no code point gives the null character. -/
theorem toNat_ofNat (n : Nat) : (Char.ofNat n).toNat = n ∨ (Char.ofNat n).toNat = 0 := by
  by_cases valid : n.isValidChar
  · rw [Char.ofNat, dif_pos valid]
    exact .inl rfl
  · rw [Char.ofNat, dif_neg valid]
    exact .inr rfl

theorem toNat_ofNat_of_lt {n : Nat} (small : n < 0xd800) : (Char.ofNat n).toNat = n := by
  have valid : n.isValidChar := .inl small
  rw [Char.ofNat, dif_pos valid]
  rfl

theorem isUppercase_ascii {c : Char} (ascii : c.toNat < 128) : isUppercase c = c.isUpper := by
  have table : ∀ n < 128, Run.anyContains uppercaseRuns n = (65 ≤ n && n ≤ 90) := by
    decide +kernel
  rw [isUppercase, table _ ascii, Bool.eq_iff_iff, isUpper_iff]
  simp

theorem isLowercase_ascii {c : Char} (ascii : c.toNat < 128) : isLowercase c = c.isLower := by
  have table : ∀ n < 128, Run.anyContains lowercaseRuns n = (97 ≤ n && n ≤ 122) := by
    decide +kernel
  rw [isLowercase, table _ ascii, Bool.eq_iff_iff, isLower_iff]
  simp

theorem isUppercase_of_isUpper {c : Char} (upper : c.isUpper = true) : isUppercase c = true := by
  have range := isUpper_iff.mp upper
  rw [isUppercase_ascii (by omega), upper]

/-- A shift that moves `n` is one of the list, and `n` is on its run. -/
theorem Shift.of_find? {shifts : List Shift} {n m : Nat} (found : Shift.find? shifts n = some m) :
    ∃ s ∈ shifts, s.run.contains n = true ∧ m = (n + s.distance).toNat := by
  induction shifts with
  | nil => cases found
  | cons s rest ih =>
    rw [Shift.find?] at found
    split at found
    · cases found
    · split at found
      · cases found
        exact ⟨s, List.mem_cons_self, ‹_›, rfl⟩
      · obtain ⟨s, mem, on⟩ := ih found
        exact ⟨s, List.mem_cons_of_mem _ mem, on⟩

theorem lower_of_isUpper {c : Char} (upper : c.isUpper = true) :
    lowerExpansions.lookup c.toNat = none ∧
      Shift.find? lowerShifts c.toNat = some (c.toNat + 32) := by
  have table : ∀ n < 128, 65 ≤ n → n ≤ 90 →
      lowerExpansions.lookup n = none ∧ Shift.find? lowerShifts n = some (n + 32) := by
    decide +kernel
  obtain ⟨least, most⟩ := isUpper_iff.mp upper
  exact table c.toNat (by omega) least most

/-- The lower-case form of an ASCII capital is the small letter, 32 code points further on. -/
theorem lowerForm_of_isUpper {c : Char} (upper : c.isUpper = true) :
    lowerForm c = [Char.ofNat (c.toNat + 32)] := by
  simp only [lowerForm, mapCase, lower_of_isUpper upper]

/-- No mapping gives a character of a range that its long forms and shifts avoid, if it moves the
characters of the range. -/
theorem not_between_of_mem_mapCase {expansions : List (Nat × List Nat)} {shifts : List Shift}
    {first last : Nat} (positive : 0 < first)
    (long : ∀ row ∈ expansions, ∀ n ∈ row.2, ¬ (first ≤ n ∧ n ≤ last))
    (far : ∀ s ∈ shifts, last < s.run.first + s.distance ∨ s.run.last + s.distance < first)
    {c d : Char}
    (moved : first ≤ c.toNat → c.toNat ≤ last → Shift.find? shifts c.toNat ≠ none)
    (mem : d ∈ mapCase expansions shifts c) : ¬ (first ≤ d.toNat ∧ d.toNat ≤ last) := by
  unfold mapCase at mem
  split at mem
  next codes form =>
    obtain ⟨_, _, rows, -⟩ := List.lookup_eq_some_iff.mp form
    obtain ⟨n, code, rfl⟩ := List.mem_map.mp mem
    have outside := long (c.toNat, codes) (by simp [rows]) n code
    rcases toNat_ofNat n with h | h <;> omega
  next =>
    split at mem
    next m found =>
      obtain ⟨s, row, on, rfl⟩ := Shift.of_find? found
      simp only [Run.contains, Bool.and_eq_true, decide_eq_true_eq] at on
      obtain rfl := List.mem_singleton.mp mem
      have outside := far s row
      rcases toNat_ofNat (c.toNat + s.distance).toNat with h | h <;> omega
    next unmoved =>
      obtain rfl := List.mem_singleton.mp mem
      exact fun range => moved range.1 range.2 unmoved

/-- No lower-case form has an ASCII capital in it. -/
theorem isUpper_of_mem_lowerForm {c d : Char} (mem : d ∈ lowerForm c) : d.isUpper = false := by
  have long : ∀ row ∈ lowerExpansions, ∀ n ∈ row.2, ¬ (65 ≤ n ∧ n ≤ 90) := by decide
  have far : ∀ s ∈ lowerShifts,
      90 < s.run.first + s.distance ∨ s.run.last + s.distance < 65 := by decide +kernel
  rw [← Bool.not_eq_true, isUpper_iff]
  refine not_between_of_mem_mapCase (by decide) long far (fun least most => ?_) mem
  rw [(lower_of_isUpper (isUpper_iff.mpr ⟨least, most⟩)).2]
  exact Option.some_ne_none _

/-- No upper-case form has a small ASCII letter in it. -/
theorem isLower_of_mem_upperForm {c d : Char} (mem : d ∈ upperForm c) : d.isLower = false := by
  have long : ∀ row ∈ upperExpansions, ∀ n ∈ row.2, ¬ (97 ≤ n ∧ n ≤ 122) := by decide
  have far : ∀ s ∈ upperShifts,
      122 < s.run.first + s.distance ∨ s.run.last + s.distance < 97 := by decide +kernel
  have moved : ∀ n < 128, 97 ≤ n → n ≤ 122 → Shift.find? upperShifts n ≠ none := by
    decide +kernel
  rw [← Bool.not_eq_true, isLower_iff]
  exact not_between_of_mem_mapCase (by decide) long far
    (fun least most => moved _ (by omega) least most) mem

theorem upperForm_ne_nil (c : Char) : upperForm c ≠ [] := by
  unfold upperForm mapCase
  split
  next codes form =>
    have table : ∀ row ∈ upperExpansions, row.2 ≠ [] := by decide
    obtain ⟨_, _, rows, -⟩ := List.lookup_eq_some_iff.mp form
    simpa using table (c.toNat, codes) (by simp [rows])
  next => split <;> exact List.cons_ne_nil _ _

/-! ## Capitals of ASCII characters -/

theorem toNat_toUpper (c : Char) :
    c.toUpper.toNat = if c.isLower = true then c.toNat - 32 else c.toNat := by
  unfold Char.toUpper
  split
  next range =>
    have small : c.isLower = true := by simpa [isLower_eq] using range
    have codes := isLower_iff.mp small
    have distance : ('A'.val - 'a'.val).toNat = 2 ^ 32 - 32 := by decide
    change (c.val + ('A'.val - 'a'.val)).toNat = _
    rw [if_pos small, UInt32.toNat_add, distance, Char.toNat_val]
    omega
  next range =>
    have other : ¬ c.isLower = true := by simpa [isLower_eq] using range
    rw [if_neg other]

theorem isUpper_toUpper {c : Char} (lower : c.isLower = true) : c.toUpper.isUpper = true := by
  have range := isLower_iff.mp lower
  rw [isUpper_iff, toNat_toUpper, if_pos lower]
  omega

/-- The upper-case form of an ASCII character is its ASCII capital. -/
theorem upperForm_ascii {c : Char} (ascii : c.toNat < 128) : upperForm c = [c.toUpper] := by
  have table : ∀ n < 128, mapCase upperExpansions upperShifts (Char.ofNat n) =
      [(Char.ofNat n).toUpper] := by
    decide +kernel
  have own := table c.toNat ascii
  rwa [Char.ofNat_toNat] at own

/-- An ASCII capital has its small letter as its lower-case form. -/
theorem lowerForm_toUpper {c : Char} (lower : c.isLower = true) : lowerForm c.toUpper = [c] := by
  have range := isLower_iff.mp lower
  rw [lowerForm_of_isUpper (isUpper_toUpper lower), toNat_toUpper, if_pos lower,
    Nat.sub_add_cancel (by omega), Char.ofNat_toNat]

/-! ## Texts in ASCII capitals -/

theorem toUpper_inj {c d : Char} (noCapital : c.isUpper = false) (noCapital' : d.isUpper = false)
    (same : c.toUpper = d.toUpper) : c = d := by
  have codes := congrArg Char.toNat same
  rw [toNat_toUpper, toNat_toUpper] at codes
  rw [← Bool.not_eq_true, isUpper_iff] at noCapital noCapital'
  apply Char.toNat_inj.mp
  split at codes <;> split at codes <;> simp only [isLower_iff] at * <;> omega

/-- Texts without ASCII capitals are told apart by their forms in capitals. -/
theorem asciiUpper_inj {a b : String} (noCapital : ∀ c ∈ a.toList, c.isUpper = false)
    (noCapital' : ∀ c ∈ b.toList, c.isUpper = false) (same : asciiUpper a = asciiUpper b) :
    a = b := by
  have chars : a.toList.map Char.toUpper = b.toList.map Char.toUpper := by
    simpa [asciiUpper] using congrArg String.toList same
  rw [← String.toList_inj]
  generalize a.toList = xs, b.toList = ys at *
  induction xs generalizing ys with
  | nil => exact (List.map_eq_nil_iff.mp chars.symm).symm
  | cons c xs ih =>
    cases ys with
    | nil => cases chars
    | cons d ys =>
      obtain ⟨first, rest⟩ := List.cons.inj chars
      rw [toUpper_inj (noCapital c List.mem_cons_self) (noCapital' d List.mem_cons_self) first,
        ih ys (fun c mem => noCapital c (List.mem_cons_of_mem _ mem))
          (fun d mem => noCapital' d (List.mem_cons_of_mem _ mem)) rest]

end Rebac.Text
