import Rebac.Bindings.Identifier
import Rebac.Proofs.Naming.Canonical
import Rebac.Text.Quoted

/-!
# Names that make identifiers

Only ASCII words make identifiers. So a canonical name that makes one is in snake case, its chain
constant tells it apart from every other such name, and a literal needs no escapes to hold it.
-/

namespace Rebac.Bindings

open Naming (canonical isSnake)

theorem isIdentifierPart_iff {c : Char} :
    isIdentifierPart c = true ↔ c.isUpper = true ∨ isSnake c = true := by
  simp only [isIdentifierPart, Char.isAlphanum, Text.isAlpha_eq, isSnake, Bool.or_eq_true, or_assoc]

/-- An identifier is a word of identifier characters. -/
theorem of_isIdentifier {name : String} (word : isIdentifier name = true) :
    name ≠ "" ∧ ∀ c ∈ name.toList, c.isUpper = true ∨ isSnake c = true := by
  rw [isIdentifier] at word
  split at word
  · cases word
  next c rest chars =>
    have nonempty : name ≠ "" := by
      rintro rfl
      cases chars
    rw [Bool.and_eq_true, List.all_eq_true] at word
    have start : isIdentifierPart c = true := by
      have first := word.1
      simp only [isIdentifierStart, isIdentifierPart, Char.isAlphanum, Bool.or_eq_true] at first ⊢
      exact first.imp_left .inl
    refine ⟨nonempty, fun d mem => isIdentifierPart_iff.mp ?_⟩
    rw [chars] at mem
    rcases List.mem_cons.mp mem with rfl | mem
    · exact start
    · exact word.2 d mem

theorem isIdentifier_of_pathKeyword {name : String} (keyword : name ∈ pathKeywords) :
    isIdentifier name = true := by
  revert name
  decide

theorem isIdentifier_of_value {name identifier : String}
    (named : valueIdentifier? name = some identifier) : isIdentifier name = true := by
  unfold valueIdentifier? at named
  split at named
  · exact isIdentifier_of_pathKeyword ‹_›
  · split at named
    next => cases named
    next word => simpa using word

theorem isIdentifier_of_type {name identifier : String}
    (named : typeIdentifier? name = some identifier) : isIdentifier name = true := by
  unfold typeIdentifier? at named
  split at named
  · exact isIdentifier_of_pathKeyword ‹_›
  · split at named
    · assumption
    · cases named

/-- A canonical form that makes an identifier is in snake case. -/
theorem isSnake_of_isIdentifier {name : String} (word : isIdentifier (canonical name) = true) :
    ∀ c ∈ (canonical name).toList, isSnake c = true := by
  intro c mem
  rcases (of_isIdentifier word).2 c mem with upper | snake
  · rw [Naming.isUpper_of_mem_canonical mem] at upper
    cases upper
  · exact snake

/-- A name that makes an identifier stands in a literal as it is. -/
theorem quoted_of_isIdentifier {name : String} (word : isIdentifier name = true) :
    Text.quoted name = "\"" ++ name ++ "\"" := by
  have plain : ∀ c ∈ name.toList, Text.quoteChar c = [c] := by
    intro c mem
    have range : 48 ≤ c.toNat ∧ c.toNat ≤ 122 ∧ c.toNat ≠ 92 := by
      rcases (of_isIdentifier word).2 c mem with upper | snake
      · have := Text.isUpper_iff.mp upper
        omega
      · have := Naming.isSnake_iff.mp snake
        omega
    have other {d : Char} (outside : d.toNat < 48 ∨ d.toNat = 92) : c ≠ d := by
      rintro rfl
      omega
    have blank : Text.isBlank c = false := by
      simp [Text.isBlank]
      omega
    have control : Text.isControl c = false := by
      simp [Text.isControl]
      omega
    simp only [Text.quoteChar, other (d := '"') (by decide), other (d := '\\') (by decide),
      other (d := '\n') (by decide), other (d := '\r') (by decide), other (d := '\t') (by decide),
      other (d := Char.ofNat 0) (by decide), blank, control]
    rfl
  have chars : name.toList.flatMap Text.quoteChar = name.toList := by
    rw [List.flatMap_def, List.map_congr_left plain, ← List.flatMap_def, List.flatMap_singleton']
  rw [Text.quoted, chars, ← String.toList_inj]
  simp

/-! ## Chain constants -/

/-- Names in snake case have different chain constants. -/
theorem chainConstant_inj {a b : String} (snakeA : ∀ c ∈ a.toList, isSnake c = true)
    (snakeB : ∀ c ∈ b.toList, isSnake c = true) (same : chainConstant a = chainConstant b) :
    a = b := by
  have upper : Text.asciiUpper a = Text.asciiUpper b := by
    have chars := congrArg String.toList same
    rw [chainConstant, chainConstant, String.toList_append, String.toList_append] at chars
    exact String.toList_inj.mp (List.append_cancel_right chars)
  exact Text.asciiUpper_inj (fun c mem => Naming.isUpper_of_isSnake (snakeA c mem))
    (fun c mem => Naming.isUpper_of_isSnake (snakeB c mem)) upper

end Rebac.Bindings
