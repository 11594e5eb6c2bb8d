import Rebac.Text.Digit
import Rebac.Text.Quoted

/-!
# Literals read back

What a string literal stands for: its characters, with each escape resolved. A quoted text stands
for itself, whatever comes after the literal.
-/

namespace Rebac.Text

/-- The character that an escape of one character stands for. -/
def escape? : Char → Option Char
  | 'n' => some '\n'
  | 'r' => some '\r'
  | 't' => some '\t'
  | '0' => some (Char.ofNat 0)
  | '\\' => some '\\'
  | '"' => some '"'
  | _ => none

/-- A character in front of those read, and the text after them. -/
def withFront (c : Char) (found : Option (List Char × List Char)) :
    Option (List Char × List Char) :=
  found.map fun (cs, rest) => (c :: cs, rest)

/-- The characters of a literal up to its closing quote, and the text after that. Inside an escape
by number, `code?` is the number so far. -/
def readInside : (code? : Option Nat) → List Char → Option (List Char × List Char)
  | _, [] => none
  | some code, '\x7d' :: rest => withFront (Char.ofNat code) (readInside none rest)
  | some code, c :: rest =>
    (hexDigit? c).bind fun digit => readInside (some (16 * code + digit)) rest
  | none, '"' :: rest => some ([], rest)
  | none, '\\' :: 'u' :: '\x7b' :: rest => readInside (some 0) rest
  | none, '\\' :: c :: rest => (escape? c).bind fun c => withFront c (readInside none rest)
  | none, c :: rest => withFront c (readInside none rest)

/-- The text that a literal at the beginning stands for, and the text after the literal. -/
def readLiteral? (text : String) : Option (String × String) :=
  match text.toList with
  | '"' :: rest =>
    (readInside none rest).map fun (cs, rest) => (String.ofList cs, String.ofList rest)
  | _ => none

theorem hexDigit?_digitChar {d : Nat} (small : d < 16) :
    hexDigit? (Nat.digitChar d) = some d ∧ Nat.digitChar d ≠ '\x7d' := by
  revert d
  decide

theorem readInside_digit {d : Nat} (small : d < 16) (code : Nat) (rest : List Char) :
    readInside (some code) (Nat.digitChar d :: rest) =
      readInside (some (16 * code + d)) rest := by
  obtain ⟨digit, inside⟩ := hexDigit?_digitChar small
  rw [readInside, digit, Option.bind_some]
  exact inside

/-- The hexadecimal digits of a number are read as that number. -/
theorem readInside_hexDigits (n : Nat) (rest : List Char) :
    readInside (some 0) (hexDigits n ++ rest) = readInside (some n) rest := by
  induction n using Nat.strongRecOn generalizing rest with
  | ind n ih =>
    rw [hexDigits]
    obtain small | large := Nat.lt_or_ge n 16
    · rw [Nat.toDigits_of_lt_base small, List.singleton_append, readInside_digit small,
        Nat.mul_zero, Nat.zero_add]
    · rw [Nat.toDigits_of_base_le (by decide) large, List.append_assoc, List.singleton_append]
      exact (ih (n / 16) (by omega) _).trans <| by
        rw [readInside_digit (Nat.mod_lt n (by decide)), Nat.div_add_mod]

/-- Each character of a quoted text is read back, with or without an escape. -/
theorem readInside_quoteChar (c : Char) (rest : List Char) :
    readInside none (quoteChar c ++ rest) = withFront c (readInside none rest) := by
  by_cases quote : c = '"'
  · subst quote
    rfl
  by_cases slash : c = '\\'
  · subst slash
    rfl
  rw [quoteChar, if_neg quote, if_neg slash]
  split
  next same => rw [same]; rfl
  split
  next same => rw [same]; rfl
  split
  next same => rw [same]; rfl
  split
  next same => rw [same]; rfl
  split
  · have opened : ['\\', 'u', '\x7b'] ++ hexDigits c.toNat ++ ['\x7d'] ++ rest =
        '\\' :: 'u' :: '\x7b' :: (hexDigits c.toNat ++ '\x7d' :: rest) := by simp
    rw [opened, readInside, readInside_hexDigits, readInside, Char.ofNat_toNat]
  · rw [List.singleton_append, readInside]
    · exact quote
    · exact fun _ same => absurd same slash
    · exact fun _ _ same => absurd same slash

theorem readLiteral?_quoted (s rest : String) :
    readLiteral? (quoted s ++ rest) = some (s, rest) := by
  have inside (cs : List Char) : readInside none (cs.flatMap quoteChar ++ '"' :: rest.toList) =
      some (cs, rest.toList) := by
    induction cs with
    | nil => rfl
    | cons c cs ih =>
      rw [List.flatMap_cons, List.append_assoc, readInside_quoteChar, ih]
      rfl
  have chars : (quoted s ++ rest).toList =
      '"' :: (s.toList.flatMap quoteChar ++ '"' :: rest.toList) := by simp [quoted]
  rw [readLiteral?, chars]
  simp only [inside, Option.map_some, String.ofList_toList]

/-! ## On one line -/

theorem newline_not_mem_toDigits {base : Nat} (two : 1 < base) (most : base ≤ 16) (n : Nat) :
    '\n' ∉ Nat.toDigits base n := by
  have digit {d : Nat} (small : d < 16) : '\n' ≠ Nat.digitChar d := by
    revert d
    decide
  induction n using Nat.strongRecOn with
  | ind n ih =>
    obtain small | large := Nat.lt_or_ge n base
    · rw [Nat.toDigits_of_lt_base small, List.mem_singleton]
      exact digit (by omega)
    · rw [Nat.toDigits_of_base_le two large, List.mem_append, List.mem_singleton, not_or]
      have below := Nat.mod_lt n (Nat.lt_of_succ_lt two)
      exact ⟨ih _ (Nat.div_lt_self (by omega) two), digit (by omega)⟩

theorem newline_not_mem_quoteChar (c : Char) : '\n' ∉ quoteChar c := by
  have digits : '\n' ∉ hexDigits c.toNat := newline_not_mem_toDigits (by decide) (by decide) _
  unfold quoteChar
  split
  · decide
  split
  · decide
  split
  · decide
  next other =>
    split
    · decide
    split
    · decide
    split
    · decide
    split
    · simp [digits]
    · simpa using Ne.symm other

/-- A literal stays on its line, whatever it holds. -/
theorem newline_not_mem_quoted (s : String) : '\n' ∉ (quoted s).toList := by
  have inside : '\n' ∉ s.toList.flatMap quoteChar := by
    rw [List.mem_flatMap]
    rintro ⟨c, -, mem⟩
    exact newline_not_mem_quoteChar c mem
  simp [quoted, inside]

end Rebac.Text
