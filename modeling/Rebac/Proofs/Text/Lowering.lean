import Rebac.Proofs.Text.Case
import Rebac.Text.Blank

/-!
# Lower-case forms

The lower-case form of a character is the character itself, or it has no capital, digit, blank or
hyphen. The tables are compared run by run, as a run that is moved beyond another one has nothing in
common with it.
-/

namespace Rebac.Text

/-! ## Runs with nothing in common -/

theorem Run.contains_iff {r : Run} {n : Nat} :
    r.contains n = true ↔ r.first ≤ n ∧ n ≤ r.last ∧ (n - r.first) % r.step = 0 := by
  simp [Run.contains, and_assoc]

/-- Whether two runs show by their ends, or by their parity, that they have nothing in common. -/
def Run.apart (a b : Run) : Bool :=
  -- Said by functions that the kernel computes, as tables of runs are gone through with it.
  Nat.blt a.last b.first || Nat.blt b.last a.first ||
    (Nat.beq a.step 2 && (Nat.beq b.step 2 || Nat.beq b.first b.last) &&
      !Nat.beq (a.first % 2) (b.first % 2))

/-- Runs that are apart share no number. Two runs of step two may be interleaved and still be apart.
-/
theorem Run.contains_of_apart {a b : Run} (apart : a.apart b = true) {n : Nat}
    (on : a.contains n = true) : b.contains n = false := by
  rw [← Bool.not_eq_true]
  simp only [Run.apart, Bool.or_eq_true, Bool.and_eq_true, Bool.not_eq_true', Nat.blt_eq,
    Nat.beq_eq, ← Bool.not_eq_true] at apart
  rw [Run.contains_iff] at on ⊢
  rcases apart with (before | after) | ⟨⟨even, own | single⟩, odd⟩
  · omega
  · omega
  · rw [even] at on
    rw [own]
    omega
  · rw [even] at on
    omega

/-- Whether a run has nothing in common with runs in increasing order. -/
def Run.clearOf (a : Run) : List Run → Bool
  | [] => true
  | b :: rest => Nat.blt a.last b.first || (a.apart b && a.clearOf rest)

/-- A number on a run that is clear of others is on none of them. -/
theorem Run.anyContains_of_clearOf {a : Run} {runs : List Run} (clear : a.clearOf runs = true)
    {n : Nat} (on : a.contains n = true) : Run.anyContains runs n = false := by
  induction runs with
  | nil => rfl
  | cons b rest ih =>
    rw [Run.clearOf, Bool.or_eq_true, Bool.and_eq_true, Nat.blt_eq] at clear
    have most : n ≤ a.last := (Run.contains_iff.mp on).2.1
    rw [Run.anyContains]
    rcases clear with before | ⟨apart, clear⟩
    · rw [if_pos (by omega)]
    · rw [Run.contains_of_apart apart on, ih clear]
      exact ite_self _

theorem Run.exists_of_anyContains {runs : List Run} {n : Nat}
    (on : Run.anyContains runs n = true) : ∃ r ∈ runs, r.contains n = true := by
  induction runs with
  | nil => cases on
  | cons r rest ih =>
    rw [Run.anyContains] at on
    split at on
    · cases on
    · rcases Bool.or_eq_true_iff.mp on with here | later
      · exact ⟨r, List.mem_cons_self, here⟩
      · obtain ⟨r, mem, on⟩ := ih later
        exact ⟨r, List.mem_cons_of_mem _ mem, on⟩

/-! ## Blanks -/

/-- The blanks, as runs. -/
def blankRuns : List Run :=
  [⟨0x9, 0xd, 1⟩, ⟨0x20, 0x20, 1⟩, ⟨0x85, 0x85, 1⟩, ⟨0xa0, 0xa0, 1⟩, ⟨0x1680, 0x1680, 1⟩,
    ⟨0x2000, 0x200a, 1⟩, ⟨0x2028, 0x2029, 1⟩, ⟨0x202f, 0x202f, 1⟩, ⟨0x205f, 0x205f, 1⟩,
    ⟨0x3000, 0x3000, 1⟩]

theorem anyContains_blankRuns {c : Char} (blank : isBlank c = true) :
    Run.anyContains blankRuns c.toNat = true := by
  simp only [isBlank, Bool.or_eq_true, Bool.and_eq_true, decide_eq_true_eq, beq_iff_eq,
    or_assoc] at blank
  generalize c.toNat = n at blank ⊢
  rcases blank with ⟨least, most⟩ | rfl | rfl | rfl | rfl | ⟨least, most⟩ | rfl | rfl | rfl | rfl |
    rfl
  case inl | inr.inr.inr.inr.inr.inl =>
    simp only [blankRuns, Run.anyContains, Bool.if_false_left, Bool.and_eq_true, Bool.or_eq_true,
      Run.contains_iff, Nat.mod_one]
    grind
  all_goals rfl

/-- No blank is upper case. -/
theorem isUppercase_of_isBlank {c : Char} (blank : isBlank c = true) : isUppercase c = false := by
  have table : (blankRuns.all fun r => r.clearOf uppercaseRuns) = true := by decide +kernel
  obtain ⟨r, mem, on⟩ := Run.exists_of_anyContains (anyContains_blankRuns blank)
  exact Run.anyContains_of_clearOf (List.all_eq_true.mp table r mem) on

/-! ## Characters that lower-case forms have -/

/-- A character that is neither upper case nor a digit, a blank or a hyphen. -/
structure Plain (c : Char) : Prop where
  upper : isUppercase c = false
  blank : isBlank c = false
  hyphen : c ≠ '-'
  digit : c.isDigit = false

/-- A code that is beyond the ASCII capitals and on no run of capitals or blanks. -/
def isPlainCode (n : Nat) : Bool :=
  Nat.blt 96 n && !Run.anyContains uppercaseRuns n && !Run.anyContains blankRuns n

theorem plain_ofNat {n : Nat} (code : isPlainCode n = true) : Plain (Char.ofNat n) := by
  simp only [isPlainCode, Bool.and_eq_true, Bool.not_eq_true', Nat.blt_eq] at code
  obtain ⟨⟨letter, upper⟩, blank⟩ := code
  rcases toNat_ofNat n with same | null
  · refine ⟨by rwa [isUppercase, same], ?_, ?_, ?_⟩
    · rw [← Bool.not_eq_true]
      intro is
      have on := anyContains_blankRuns is
      rw [same, blank] at on
      cases on
    · intro is
      rw [is] at same
      have hyphen : '-'.toNat = 45 := rfl
      omega
    · rw [← Bool.not_eq_true, isDigit_iff]
      omega
  · have is : Char.ofNat n = Char.ofNat 0 := Char.toNat_inj.mp null
    rw [is]
    exact ⟨rfl, rfl, by decide, rfl⟩

/-- The run that a shift moves its run to. -/
def Shift.target (s : Shift) : Run :=
  ⟨(s.run.first + s.distance).toNat, (s.run.last + s.distance).toNat, s.run.step⟩

/-- A shift takes its run to its target, number by number. -/
theorem Shift.contains_target {s : Shift} (above : 0 < s.target.first) {n : Nat}
    (on : s.run.contains n = true) : s.target.contains (n + s.distance).toNat = true := by
  obtain ⟨least, most, step⟩ := Run.contains_iff.mp on
  simp only [Shift.target] at above
  have bounds : (s.run.first + s.distance).toNat ≤ (n + s.distance).toNat ∧
      (n + s.distance).toNat ≤ (s.run.last + s.distance).toNat := by
    omega
  have same : (n + s.distance).toNat - (s.run.first + s.distance).toNat = n - s.run.first := by
    omega
  exact Run.contains_iff.mpr ⟨bounds.1, bounds.2, by rwa [Shift.target, same]⟩

/-- Computed over the table: no small form is a capital, a blank or a code below the letters. -/
theorem lowerShifts_clear : (lowerShifts.all fun s => Nat.blt 96 s.target.first &&
    s.target.clearOf uppercaseRuns && s.target.clearOf blankRuns) = true := by
  decide +kernel

/-- A lower-case form is the character itself, or it is plain. -/
theorem lowerForm_cases (c : Char) : lowerForm c = [c] ∨ ∀ d ∈ lowerForm c, Plain d := by
  unfold lowerForm mapCase
  split
  next codes long =>
    have table : ∀ row ∈ lowerExpansions, ∀ n ∈ row.2, isPlainCode n = true := by decide
    obtain ⟨_, _, rows, -⟩ := List.lookup_eq_some_iff.mp long
    refine .inr fun d mem => ?_
    obtain ⟨n, code, rfl⟩ := List.mem_map.mp mem
    exact plain_ofNat (table (c.toNat, codes) (by simp [rows]) n code)
  next short =>
    split
    next m moved =>
      obtain ⟨s, row, on, rfl⟩ := Shift.of_find? moved
      have clear := List.all_eq_true.mp lowerShifts_clear s row
      simp only [Bool.and_eq_true, Nat.blt_eq] at clear
      obtain ⟨⟨letter, upper⟩, blank⟩ := clear
      have target := Shift.contains_target (by omega) on
      refine .inr fun d mem => ?_
      rw [List.mem_singleton.mp mem]
      refine plain_ofNat ?_
      have beyond := (Run.contains_iff.mp target).1
      simp only [isPlainCode, Run.anyContains_of_clearOf upper target,
        Run.anyContains_of_clearOf blank target, Bool.not_false, Bool.and_true, Nat.blt_eq]
      omega
    next => exact .inl rfl

theorem lowerForm_ne_nil (c : Char) : lowerForm c ≠ [] := by
  unfold lowerForm mapCase
  split
  next codes long =>
    have table : ∀ row ∈ lowerExpansions, row.2 ≠ [] := by decide
    obtain ⟨_, _, rows, -⟩ := List.lookup_eq_some_iff.mp long
    rw [ne_eq, List.map_eq_nil_iff]
    exact table (c.toNat, codes) (by simp [rows])
  next => split <;> exact List.cons_ne_nil _ _

/-- An upper-case character that is its own lower-case form, such as `ℝ`. -/
def isLasting (c : Char) : Bool := isUppercase c && lowerForm c == [c]

theorem isLasting_iff {c : Char} :
    isLasting c = true ↔ isUppercase c = true ∧ lowerForm c = [c] := by
  simp [isLasting]

/-- What a capital with a lower-case form becomes is plain. -/
theorem plain_of_mem_lowerForm {c : Char} (upper : isUppercase c = true)
    (other : isLasting c = false) {d : Char} (mem : d ∈ lowerForm c) : Plain d := by
  rcases lowerForm_cases c with same | plain
  · rw [isLasting_iff.mpr ⟨upper, same⟩] at other
    cases other
  · exact plain d mem

end Rebac.Text
