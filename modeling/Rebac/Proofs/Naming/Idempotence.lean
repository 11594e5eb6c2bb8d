import Rebac.Proofs.Naming.Canonical
import Rebac.Proofs.Text.Lowering

/-!
# Canonical forms of canonical forms

A capital without a lower-case form stays a capital, so it is asked a second time whether it starts
a word, between what its neighbours became. The main statements say for which names that makes a
difference, and that it makes none a third time.
-/

namespace Rebac.Naming

open Text (Plain isLasting isLasting_iff isUppercase isLowercase lowerForm plain_of_mem_lowerForm)

theorem canonicalStep_of_plain {c : Char} (plain : Plain c) (prev next : Option Char) :
    canonicalStep prev c next = [c] := by
  simp [canonicalStep, plain.hyphen, plain.blank, plain.upper]

theorem plain_underscore : Plain '_' := ⟨by decide +kernel, rfl, by decide, rfl⟩

/-- The last character that `c` becomes. -/
def lastWritten (c : Char) : Option Char :=
  if c = '-' || Text.isBlank c then some '_'
  else if isUppercase c then (lowerForm c).getLast?
  else some c

theorem getLast?_canonicalStep (prev : Option Char) (c : Char) (next : Option Char) :
    (canonicalStep prev c next).getLast? = lastWritten c := by
  unfold canonicalStep lastWritten
  split
  · rfl
  · split
    · obtain ⟨first, rest, form⟩ := List.exists_cons_of_ne_nil (Text.lowerForm_ne_nil c)
      split
      · rw [form, List.getLast?_cons_cons]
      · rfl
    · rfl

theorem lastWritten_ne_none (c : Char) : lastWritten c ≠ none := by
  unfold lastWritten
  split
  · exact Option.some_ne_none _
  · split
    · exact mt List.getLast?_eq_none_iff.mp (Text.lowerForm_ne_nil c)
    · exact Option.some_ne_none _

/-- Only the empty name has the empty canonical form. -/
theorem canonical_eq_empty_iff {name : String} : canonical name = "" ↔ name = "" := by
  rw [← String.toList_eq_nil_iff, ← String.toList_eq_nil_iff, canonical, String.toList_ofList]
  cases name.toList with
  | nil => simp [canonicalFrom]
  | cons c rest =>
    have written := getLast?_canonicalStep none c rest.head? ▸ lastWritten_ne_none c
    simp [canonicalFrom, mt List.getLast?_eq_none_iff.mpr written]

theorem startsWord_underscore (next : Option Char) : startsWord (some '_') next = false := by
  have lower : isLowercase '_' = false := by decide +kernel
  simp [startsWord, lower, plain_underscore.upper, plain_underscore.digit]

/-- A capital without lower-case form at which no word starts, but behind a capital whose lower-case
form ends in a small letter, or between one without lower-case form and one whose form begins with a
small letter. -/
def BreaksLate (before : Option Char) (c : Char) (after : List Char) : Prop :=
  isLasting c = true ∧ startsWord before after.head? = false ∧
    ((∃ p ∈ before, isUppercase p = true ∧ (lowerForm p).getLast?.any isLowercase = true) ∨
      (∃ p ∈ before, isLasting p = true) ∧ ∃ n ∈ after.head?, isUppercase n = true ∧
        startsWord (some c) after.tail.head? = false ∧
          (lowerForm n).head?.any isLowercase = true)

/-- No hyphen or blank is upper case. -/
theorem isUppercase_of_gap {c : Char} (gap : (decide (c = '-') || Text.isBlank c) = true) :
    isUppercase c = false := by
  rcases Bool.or_eq_true_iff.mp gap with hyphen | blank
  · rw [of_decide_eq_true hyphen]
    decide +kernel
  · exact Text.isUppercase_of_isBlank blank

/-- What a lasting capital becomes. -/
theorem canonicalStep_of_lasting {c : Char} (lasting : isLasting c = true)
    (prev next : Option Char) :
    canonicalStep prev c next = if startsWord prev next then ['_', c] else [c] := by
  obtain ⟨upper, form⟩ := isLasting_iff.mp lasting
  have solid : ¬ (decide (c = '-') || Text.isBlank c) = true := by
    intro gap
    rw [isUppercase_of_gap gap] at upper
    cases upper
  rw [canonicalStep, if_neg solid, if_pos upper, form]

theorem lastWritten_of_lasting {c : Char} (lasting : isLasting c = true) :
    lastWritten c = some c := by
  rw [← getLast?_canonicalStep none c none, canonicalStep_of_lasting lasting]
  rfl

/-- What is written for any other character is written again as it is. -/
theorem kept_of_mem_canonicalStep {c : Char} (other : isLasting c = false)
    {prev next : Option Char} :
    ∀ d ∈ canonicalStep prev c next, ∀ prev next, canonicalStep prev d next = [d] := by
  intro d mem
  by_cases gap : (c = '-' || Text.isBlank c) = true
  · rw [canonicalStep, if_pos gap, List.mem_singleton] at mem
    rw [mem]
    exact canonicalStep_of_plain plain_underscore
  cases upper : isUppercase c with
  | false =>
    simp only [canonicalStep, if_neg gap, upper, Bool.false_eq_true, if_false,
      List.mem_singleton] at mem
    intro prev next
    simp [mem, canonicalStep, gap, upper]
  | true =>
    rcases of_mem_canonicalStep mem with rfl | ⟨-, form⟩ | ⟨lower, -⟩
    · exact canonicalStep_of_plain plain_underscore
    · exact canonicalStep_of_plain (plain_of_mem_lowerForm upper other form)
    · rw [upper] at lower
      cases lower

theorem startsWord_some (p : Char) (next : Option Char) :
    startsWord (some p) next =
      (isLowercase p || p.isDigit || (isUppercase p && next.any isLowercase)) := by
  rw [startsWord]
  cases isLowercase p || p.isDigit <;> rfl

/-- Before a character that is no small letter, a small letter is written for a capital only. -/
theorem head?_canonicalFrom_iff {prev : Option Char} {after : List Char}
    (other : after.head?.any isLowercase = false) :
    (canonicalFrom prev after).head?.any isLowercase = true ↔
      ∃ n ∈ after.head?, isUppercase n = true ∧ startsWord prev after.tail.head? = false ∧
        (lowerForm n).head?.any isLowercase = true := by
  cases after with
  | nil => simp [canonicalFrom]
  | cons n rest =>
    have small : isLowercase n = false := other
    have underscore : isLowercase '_' = false := by decide +kernel
    simp only [List.head?_cons, Option.mem_some_iff, exists_eq_left', List.tail_cons,
      canonicalFrom, canonicalStep]
    split
    next gap => simp [underscore, isUppercase_of_gap gap]
    next =>
      cases upper : isUppercase n with
      | false => simp [small]
      | true =>
        obtain ⟨first, later, form⟩ := List.exists_cons_of_ne_nil (Text.lowerForm_ne_nil n)
        cases startsWord prev rest.head? <;> simp [form, underscore]

/-- Whether a word starts, told from what the neighbours become. -/
theorem startsWord_written_iff {before : Option Char} {c : Char} {after : List Char}
    (lasting : isLasting c = true) (start : startsWord before after.head? = false) :
    startsWord (before.bind lastWritten) (canonicalFrom (some c) after).head? = true ↔
      BreaksLate before c after := by
  rw [BreaksLate]
  simp only [lasting, start, true_and]
  cases before with
  | none => simp [startsWord]
  | some p =>
    simp only [startsWord_some, Bool.or_eq_false_iff, Bool.and_eq_false_imp] at start
    obtain ⟨⟨small, digit⟩, later⟩ := start
    simp only [Option.mem_some_iff, exists_eq_left', Option.bind_some, lastWritten]
    split
    next gap => simp [startsWord_underscore, isUppercase_of_gap gap, isLasting]
    next =>
      cases upper : isUppercase p with
      | false => simp [startsWord_some, small, digit, upper, isLasting]
      | true =>
        cases lasts : isLasting p with
        | true =>
          have same := (isLasting_iff.mp lasts).2
          simp [startsWord_some, same, small, digit, upper,
            head?_canonicalFrom_iff (later upper)]
        | false =>
          have last := List.getLast?_eq_some_getLast (Text.lowerForm_ne_nil p)
          have plain := plain_of_mem_lowerForm upper lasts (List.mem_of_getLast? last)
          simp [startsWord_some, last, plain.upper, plain.digit]

/-- A place in a list is its first one or one of the rest. -/
theorem forall_place_cons {P : Option Char → Char → List Char → Prop} {prev : Option Char}
    {c : Char} {rest : List Char} :
    (∀ before d after, c :: rest = before ++ d :: after → P (before.getLast?.or prev) d after) ↔
      P prev c rest ∧
        ∀ before d after, rest = before ++ d :: after →
          P (before.getLast?.or (some c)) d after := by
  constructor
  · intro each
    refine ⟨each [] c rest rfl, fun before d after split => ?_⟩
    rw [← getLast?_cons_or c before prev]
    exact each (c :: before) d after (congrArg _ split)
  · rintro ⟨here, later⟩ before d after split
    cases before with
    | nil =>
      cases split
      exact here
    | cons _ before =>
      obtain ⟨rfl, same⟩ := List.cons.inj split
      rw [getLast?_cons_or]
      exact later before d after same

theorem canonicalFrom_again_iff {prev : Option Char} {cs : List Char} :
    canonicalFrom (prev.bind lastWritten) (canonicalFrom prev cs) = canonicalFrom prev cs ↔
      ∀ before c after, cs = before ++ c :: after →
        ¬ BreaksLate (before.getLast?.or prev) c after := by
  induction cs generalizing prev with
  | nil => simp [canonicalFrom]
  | cons c rest ih =>
    rw [forall_place_cons (P := fun before c after => ¬ BreaksLate before c after), ← ih,
      canonicalFrom]
    cases lasting : isLasting c with
    | false =>
      have never : ¬ BreaksLate prev c rest := by
        rw [BreaksLate, lasting]
        simp
      obtain ⟨last, written⟩ := Option.ne_none_iff_exists'.mp (lastWritten_ne_none c)
      rw [canonicalFrom_append (kept_of_mem_canonicalStep lasting), getLast?_canonicalStep,
        written, List.append_cancel_left_eq, and_iff_right never, Option.bind_some, written]
      rfl
    | true =>
      rw [canonicalStep_of_lasting lasting, Option.bind_some, lastWritten_of_lasting lasting]
      cases start : startsWord prev rest.head? with
      | true =>
        have atOnce : ¬ BreaksLate prev c rest := by simp [BreaksLate, start]
        rw [and_iff_right atOnce]
        simp [canonicalFrom, canonicalStep_of_plain plain_underscore,
          canonicalStep_of_lasting lasting, startsWord_underscore]
      | false =>
        have again : canonicalFrom (prev.bind lastWritten) ([c] ++ canonicalFrom (some c) rest) =
            canonicalStep (prev.bind lastWritten) c (canonicalFrom (some c) rest).head? ++
              canonicalFrom (some c) (canonicalFrom (some c) rest) := rfl
        rw [if_neg Bool.false_ne_true, again, canonicalStep_of_lasting lasting]
        have written := startsWord_written_iff lasting start
        by_cases late : BreaksLate prev c rest
        · have other : '_' ≠ c := by
            rintro rfl
            exact absurd lasting (by decide +kernel)
          rw [if_pos (written.mpr late)]
          simp [late, other]
        · rw [if_neg (mt written.mp late), List.append_cancel_left_eq, and_iff_right late]

/-- The canonical form of a name is its own canonical form just where no capital breaks late. -/
theorem canonical_canonical_iff {name : String} :
    canonical (canonical name) = canonical name ↔
      ∀ before c after, name.toList = before ++ c :: after →
        ¬ BreaksLate before.getLast? c after := by
  have again := @canonicalFrom_again_iff none name.toList
  simpa [canonical, ← String.toList_inj] using again

/-- So it is where every capital of the name has a lower-case form. -/
theorem canonical_canonical {name : String} (changes : ∀ c ∈ name.toList, isLasting c = false) :
    canonical (canonical name) = canonical name := by
  rw [canonical_canonical_iff]
  rintro before c after split ⟨lasting, -⟩
  rw [changes c (split ▸ List.mem_append_right _ List.mem_cons_self)] at lasting
  cases lasting

/-- The capitals of a canonical form have no lower-case form. -/
theorem isLasting_of_mem_canonical {name : String} {c : Char} (mem : c ∈ (canonical name).toList)
    (upper : isUppercase c = true) : isLasting c = true := by
  rcases of_mem_canonical mem with rfl | ⟨c', -, ⟨upper', form⟩ | ⟨lower, rfl⟩⟩
  · rw [plain_underscore.upper] at upper
    cases upper
  · cases lasting : isLasting c' with
    | true =>
      rw [(isLasting_iff.mp lasting).2, List.mem_singleton] at form
      rwa [form]
    | false =>
      rw [(plain_of_mem_lowerForm upper' lasting form).upper] at upper
      cases upper
  · rw [upper] at lower
    cases lower

/-- The canonical form of a canonical form is its own. -/
theorem canonical_thrice (name : String) :
    canonical (canonical (canonical name)) = canonical (canonical name) := by
  rw [canonical_canonical_iff]
  -- A capital of a canonical form is its own lower-case form, so no small letter is written for it.
  have keeps {c : Char} (mem : c ∈ (canonical name).toList) (upper : isUppercase c = true) :
      lowerForm c = [c] := (isLasting_iff.mp (isLasting_of_mem_canonical mem upper)).2
  rintro before c after split ⟨-, start, ⟨p, prev, upper, small⟩ |
    ⟨⟨p, prev, lasts⟩, n, next, upper, -, small⟩⟩
  · have mem : p ∈ (canonical name).toList :=
      split ▸ List.mem_append_left _ (List.mem_of_getLast? prev)
    have lower : isLowercase p = true := by rwa [keeps mem upper] at small
    rw [Option.mem_def.mp prev, startsWord_some, lower] at start
    cases start
  · have mem : n ∈ (canonical name).toList := by simp [split, List.mem_of_mem_head? next]
    have lower : isLowercase n = true := by rwa [keeps mem upper] at small
    rw [Option.mem_def.mp prev, startsWord_some, (isLasting_iff.mp lasts).1,
      Option.mem_def.mp next] at start
    simp [lower] at start

end Rebac.Naming
