import Rebac.Naming.Canonical
import Rebac.Proofs.Text.Case

/-!
# Names in canonical form

Names of small ASCII letters, digits and underscores are their own canonical form. A canonical form
never has an ASCII capital, so one that is in ASCII letters and digits is such a name.
-/

namespace Rebac.Naming

/-- Whether `c` is a small ASCII letter, a digit or an underscore. -/
def isSnake (c : Char) : Bool := c.isLower || c.isDigit || c = '_'

theorem isSnake_iff {c : Char} :
    isSnake c = true ↔
      (97 ≤ c.toNat ∧ c.toNat ≤ 122) ∨ (48 ≤ c.toNat ∧ c.toNat ≤ 57) ∨ c.toNat = 95 := by
  have underscore : c = '_' ↔ c.toNat = 95 := by
    rw [← Char.toNat_inj]
    rfl
  simp only [isSnake, Bool.or_eq_true, decide_eq_true_eq, Text.isLower_iff, Text.isDigit_iff,
    underscore, or_assoc]

theorem isUpper_of_isSnake {c : Char} (snake : isSnake c = true) : c.isUpper = false := by
  have := isSnake_iff.mp snake
  rw [← Bool.not_eq_true, Text.isUpper_iff]
  omega

/-- What a character becomes: an underscore, its lower-case form when it is upper case, or itself
when it is not. -/
theorem of_mem_canonicalStep {prev next : Option Char} {c d : Char}
    (mem : d ∈ canonicalStep prev c next) :
    d = '_' ∨ (Text.isUppercase c = true ∧ d ∈ Text.lowerForm c) ∨
      (Text.isUppercase c = false ∧ d = c) := by
  unfold canonicalStep at mem
  split at mem
  · exact .inl (List.mem_singleton.mp mem)
  · split at mem
    next upper =>
      split at mem
      · rcases List.mem_cons.mp mem with h | h
        · exact .inl h
        · exact .inr (.inl ⟨upper, h⟩)
      · exact .inr (.inl ⟨upper, mem⟩)
    next lower => exact .inr (.inr ⟨Bool.not_eq_true _ ▸ lower, List.mem_singleton.mp mem⟩)

/-- A character of a canonical form comes from one of the name. -/
theorem of_mem_canonical {name : String} {d : Char} (mem : d ∈ (canonical name).toList) :
    d = '_' ∨ ∃ c ∈ name.toList, (Text.isUppercase c = true ∧ d ∈ Text.lowerForm c) ∨
      (Text.isUppercase c = false ∧ d = c) := by
  rw [canonical, String.toList_ofList] at mem
  generalize none = prev, name.toList = cs at mem ⊢
  induction cs generalizing prev with
  | nil => cases mem
  | cons c rest ih =>
    rcases List.mem_append.mp mem with mem | mem
    · exact (of_mem_canonicalStep mem).imp_right fun h => ⟨c, List.mem_cons_self, h⟩
    · exact (ih _ mem).imp_right fun ⟨c', mem, h⟩ => ⟨c', List.mem_cons_of_mem _ mem, h⟩

theorem isUpper_of_mem_canonical {name : String} {d : Char} (mem : d ∈ (canonical name).toList) :
    d.isUpper = false := by
  rcases of_mem_canonical mem with rfl | ⟨c, -, ⟨-, form⟩ | ⟨lower, rfl⟩⟩
  · rfl
  · exact Text.isUpper_of_mem_lowerForm form
  · cases upper : d.isUpper with
    | false => rfl
    | true => rw [Text.isUppercase_of_isUpper upper] at lower; cases lower

/-- A name in ASCII letters, digits and underscores has a canonical form without capitals. -/
theorem isSnake_of_mem_canonical {name : String}
    (ascii : ∀ c ∈ name.toList, c.isUpper = true ∨ isSnake c = true) {d : Char}
    (mem : d ∈ (canonical name).toList) : isSnake d = true := by
  rcases of_mem_canonical mem with rfl | ⟨c, own, ⟨upper, form⟩ | ⟨lower, rfl⟩⟩
  · rfl
  · have capital : c.isUpper = true := by
      rcases ascii c own with h | snake
      · exact h
      · have := isSnake_iff.mp snake
        rwa [Text.isUppercase_ascii (by omega)] at upper
    rw [Text.lowerForm_of_isUpper capital, List.mem_singleton] at form
    have range := Text.isUpper_iff.mp capital
    rw [form, isSnake_iff, Text.toNat_ofNat_of_lt (by omega)]
    omega
  · rcases ascii d own with h | snake
    · rw [Text.isUppercase_of_isUpper h] at lower
      cases lower
    · exact snake

/-- A character that is its own canonical form, wherever it stands, stays in the name. -/
theorem mem_canonical {name : String} {c : Char}
    (kept : ∀ prev next, canonicalStep prev c next = [c]) (mem : c ∈ name.toList) :
    c ∈ (canonical name).toList := by
  rw [canonical, String.toList_ofList]
  generalize none = prev, name.toList = cs at mem ⊢
  induction cs generalizing prev with
  | nil => cases mem
  | cons d rest ih =>
    rw [canonicalFrom, List.mem_append]
    rcases List.mem_cons.mp mem with rfl | later
    · rw [kept]
      exact .inl (List.mem_singleton.mpr rfl)
    · exact .inr (ih _ later)

theorem canonicalStep_of_isSnake {prev next : Option Char} {c : Char} (snake : isSnake c = true) :
    canonicalStep prev c next = [c] := by
  have range := isSnake_iff.mp snake
  have dash : c ≠ '-' := by
    rintro rfl
    cases snake
  have blank : Text.isBlank c = false := by
    simp [Text.isBlank]
    omega
  have lower : Text.isUppercase c = false := by
    rw [Text.isUppercase_ascii (by omega), isUpper_of_isSnake snake]
  simp [canonicalStep, dash, blank, lower]

theorem getLast?_cons_or (c : Char) (rest : List Char) (prev : Option Char) :
    (c :: rest).getLast?.or prev = rest.getLast?.or (some c) := by
  rw [List.getLast?_cons]
  cases rest.getLast? <;> rfl

/-- Characters that are their own canonical forms stay, and the last of them is next to the rest. -/
theorem canonicalFrom_append {kept : List Char}
    (each : ∀ c ∈ kept, ∀ prev next, canonicalStep prev c next = [c]) (prev : Option Char)
    (after : List Char) :
    canonicalFrom prev (kept ++ after) = kept ++ canonicalFrom (kept.getLast?.or prev) after := by
  induction kept generalizing prev with
  | nil => rfl
  | cons c rest ih =>
    obtain ⟨here, later⟩ := List.forall_mem_cons.mp each
    rw [List.cons_append, canonicalFrom, here, ih later, getLast?_cons_or]
    rfl

theorem canonical_of_isSnake {name : String} (snake : ∀ c ∈ name.toList, isSnake c = true) :
    canonical name = name := by
  have fixed := canonicalFrom_append
    (fun c mem _ _ => canonicalStep_of_isSnake (snake c mem)) none []
  rw [List.append_nil] at fixed
  rw [canonical, fixed, canonicalFrom, List.append_nil, String.ofList_toList]

end Rebac.Naming
