import Mathlib.Data.List.Chain
import Rebac.Proofs.Naming.Canonical

/-!
# Names in words

The Pascal form of a name in snake case drops the underscores and capitalises the words. Its
canonical form puts an underscore back where a capital starts a word. The main statement says when
every underscore comes back: each word begins with a letter, and behind a word of one letter the
second character of the next word is a letter, so that the two capitals are no acronym.
-/

namespace Rebac.Naming

/-- Whether `c` is a small ASCII letter or a digit. -/
def isWordChar (c : Char) : Bool := c.isLower || c.isDigit

/-- A small ASCII letter, and then small ASCII letters and digits. -/
def IsWord (word : List Char) : Prop :=
  ∃ first rest, word = first :: rest ∧ first.isLower = true ∧ ∀ c ∈ rest, isWordChar c = true

/-- Behind a word of one letter, the second character of the next word is a letter. -/
def MayFollow (word next : List Char) : Prop :=
  word.length = 1 → ∃ first second rest, next = first :: second :: rest ∧ second.isLower = true

/-- A word with its first character in upper case. -/
def capitalised : List Char → List Char
  | [] => []
  | c :: rest => c.toUpper :: rest

/-- Words, each behind an underscore. -/
def underscored (words : List (List Char)) : List Char := words.flatMap ('_' :: ·)

theorem intercalate_cons (word : List Char) (words : List (List Char)) :
    ['_'].intercalate (word :: words) = word ++ underscored words := by
  induction words generalizing word with
  | nil => simp [underscored]
  | cons next words ih => rw [List.intercalate_cons_cons, ih]; simp [underscored]

/-! ## Characters of words -/

section Characters

variable {c : Char}

theorem toNat_lt_of_isWordChar (plain : isWordChar c = true) : c.toNat < 128 := by
  simp only [isWordChar, Bool.or_eq_true, Text.isLower_iff, Text.isDigit_iff] at plain
  omega

theorem isSnake_of_isWordChar (plain : isWordChar c = true) : isSnake c = true := by
  rw [isSnake, Bool.or_eq_true]
  exact .inl plain

theorem ne_underscore_of_isWordChar (plain : isWordChar c = true) : c ≠ '_' := by
  rintro rfl
  cases plain

theorem isWordChar_of_isSnake (snake : isSnake c = true) (ne : c ≠ '_') : isWordChar c = true := by
  rw [isSnake, Bool.or_eq_true] at snake
  exact snake.resolve_right (by simpa using ne)

theorem isSeparator_eq_false (plain : isWordChar c = true) : isSeparator c = false := by
  have snake := isSnake_of_isWordChar plain
  have range := isSnake_iff.mp snake
  have dash : c ≠ '-' := by
    rintro rfl
    cases plain
  have blank : Text.isBlank c = false := by
    simp [Text.isBlank]
    omega
  simp [isSeparator, ne_underscore_of_isWordChar plain, dash, blank]

theorem IsWord.isWordChar {word : List Char} (is : IsWord word) :
    ∀ c ∈ word, isWordChar c = true := by
  obtain ⟨first, rest, rfl, letter, plain⟩ := is
  exact List.forall_mem_cons.mpr ⟨by rw [Naming.isWordChar, letter]; rfl, plain⟩

end Characters

/-! ## Pascal forms -/

theorem pascalFrom_capitalised {word : List Char} (plain : ∀ c ∈ word, isWordChar c = true)
    (words : List (List Char)) :
    pascalFrom true (word ++ underscored words) =
      capitalised word ++ pascalFrom true (underscored words) := by
  have within (rest : List Char) (plain : ∀ c ∈ rest, isWordChar c = true) :
      pascalFrom false (rest ++ underscored words) =
        rest ++ pascalFrom false (underscored words) := by
    induction rest with
    | nil => rfl
    | cons c rest ih =>
      obtain ⟨here, later⟩ := List.forall_mem_cons.mp plain
      rw [List.cons_append, pascalFrom, isSeparator_eq_false here, ih later]
      rfl
  have behind : pascalFrom false (underscored words) = pascalFrom true (underscored words) := by
    cases words with
    | nil => rfl
    | cons => rfl
  cases word with
  | nil => rfl
  | cons c rest =>
    obtain ⟨here, later⟩ := List.forall_mem_cons.mp plain
    rw [List.cons_append, pascalFrom, isSeparator_eq_false here, within rest later, behind,
      Text.upperForm_ascii (toNat_lt_of_isWordChar here)]
    rfl

/-- The Pascal form of words joined by underscores is the words capitalised. -/
theorem pascalFrom_intercalate {word : List Char} {words : List (List Char)}
    (plain : ∀ w ∈ word :: words, ∀ c ∈ w, isWordChar c = true) :
    pascalFrom true (['_'].intercalate (word :: words)) =
      capitalised word ++ words.flatMap capitalised := by
  rw [intercalate_cons]
  induction words generalizing word with
  | nil =>
    rw [pascalFrom_capitalised (plain word List.mem_cons_self)]
    rfl
  | cons next words ih =>
    obtain ⟨here, later⟩ := List.forall_mem_cons.mp plain
    have after : pascalFrom true (underscored (next :: words)) =
        pascalFrom true (next ++ underscored words) := rfl
    rw [pascalFrom_capitalised here, after, ih later, List.flatMap_cons]

/-! ## Canonical forms of capitalised words -/

/-- Whether a capitalised word starts a word between what stands before it and after it. -/
def breaks (prev : Option Char) (word after : List Char) : Bool :=
  match word with
  | [] => false
  | c :: rest => c.isLower && startsWord prev (rest ++ after).head?

/-- The character before what follows a capitalised word. -/
def lastOf (prev : Option Char) (word : List Char) : Option Char :=
  (capitalised word).getLast?.or prev

/-- A letter of a word, capitalised: the step makes it small again. -/
theorem canonicalStep_toUpper {c : Char} (plain : isWordChar c = true) (prev next : Option Char) :
    canonicalStep prev c.toUpper next =
      (if c.isLower && startsWord prev next then ['_'] else []) ++ [c] := by
  cases letter : c.isLower with
  | false =>
    have same : c.toUpper = c := by
      rw [← Char.toNat_inj, Text.toNat_toUpper, letter]
      rfl
    rw [same, canonicalStep_of_isSnake (isSnake_of_isWordChar plain)]
    rfl
  | true =>
    have upper := Text.isUpper_toUpper letter
    have range := Text.isUpper_iff.mp upper
    have dash : c.toUpper ≠ '-' := by
      intro same
      rw [same] at upper
      cases upper
    have blank : Text.isBlank c.toUpper = false := by
      simp [Text.isBlank]
      omega
    simp only [canonicalStep, dash, blank, Text.isUppercase_of_isUpper upper,
      Text.lowerForm_toUpper letter]
    cases startsWord prev next <;> rfl

/-- A word that is capitalised comes back from its canonical form in small letters, with an
underscore in front of it if it starts a word there. -/
theorem canonicalFrom_capitalised {word : List Char} (plain : ∀ c ∈ word, isWordChar c = true)
    (prev : Option Char) (after : List Char) :
    canonicalFrom prev (capitalised word ++ after) =
      (if breaks prev word after then ['_'] else []) ++ word ++
        canonicalFrom (lastOf prev word) after := by
  cases word with
  | nil => rfl
  | cons c rest =>
    obtain ⟨here, later⟩ := List.forall_mem_cons.mp plain
    have last : rest.getLast?.or (some c.toUpper) = lastOf prev (c :: rest) :=
      (getLast?_cons_or c.toUpper rest prev).symm
    rw [capitalised, List.cons_append, canonicalFrom, canonicalStep_toUpper here,
      canonicalFrom_append fun c mem _ _ => canonicalStep_of_isSnake
        (isSnake_of_isWordChar (later c mem)), last]
    simp [breaks]

/-- Each of the words, capitalised and one after the other, starts a word. -/
def AllBreak : Option Char → List (List Char) → Prop
  | _, [] => True
  | prev, word :: words =>
    breaks prev word (words.flatMap capitalised) = true ∧ AllBreak (lastOf prev word) words

/-- Capitalised words are separated again where all of them start a word. -/
theorem canonicalFrom_of_allBreak {prev : Option Char} {words : List (List Char)}
    (plain : ∀ w ∈ words, ∀ c ∈ w, isWordChar c = true) (all : AllBreak prev words) :
    canonicalFrom prev (words.flatMap capitalised) = underscored words := by
  induction words generalizing prev with
  | nil => rfl
  | cons word words ih =>
    obtain ⟨here, later⟩ := List.forall_mem_cons.mp plain
    rw [List.flatMap_cons, canonicalFrom_capitalised here, all.1, ih later all.2]
    rfl

theorem count_underscore {word : List Char} (plain : ∀ c ∈ word, isWordChar c = true) :
    word.count '_' = 0 :=
  List.count_eq_zero.mpr fun mem => ne_underscore_of_isWordChar (plain _ mem) rfl

/-- A word gives one underscore at most, so all of them start a word where there are as many
underscores as words. -/
theorem count_canonicalFrom {prev : Option Char} {words : List (List Char)}
    (plain : ∀ w ∈ words, ∀ c ∈ w, isWordChar c = true) :
    let underscores := (canonicalFrom prev (words.flatMap capitalised)).count '_'
    underscores ≤ words.length ∧ (underscores = words.length → AllBreak prev words) := by
  intro underscores
  induction words generalizing prev with
  | nil => exact ⟨Nat.le_refl 0, fun _ => trivial⟩
  | cons word words ih =>
    obtain ⟨here, later⟩ := List.forall_mem_cons.mp plain
    obtain ⟨few, all⟩ := @ih (lastOf prev word) later
    have total : underscores = (if breaks prev word (words.flatMap capitalised) then 1 else 0) +
        (canonicalFrom (lastOf prev word) (words.flatMap capitalised)).count '_' := by
      simp only [underscores, List.flatMap_cons, canonicalFrom_capitalised here,
        List.count_append, count_underscore here]
      split <;> rfl
    rw [total, List.length_cons]
    cases first : breaks prev word (words.flatMap capitalised) with
    | false =>
      simp only [Bool.false_eq_true, if_false]
      exact ⟨by omega, by omega⟩
    | true =>
      simp only [if_true]
      exact ⟨by omega, fun same => ⟨first, all (by omega)⟩⟩

/-! ## Where words start -/

/-- What follows a capitalised word without a rest is no small letter. -/
theorem isLowercase_head?_capitalised {words : List (List Char)}
    (plain : ∀ w ∈ words, ∀ c ∈ w, isWordChar c = true) :
    (words.flatMap capitalised).head?.any Text.isLowercase = false := by
  induction words with
  | nil => rfl
  | cons word words ih =>
    obtain ⟨here, later⟩ := List.forall_mem_cons.mp plain
    cases word with
    | nil => exact ih later
    | cons c rest =>
      have own := here c List.mem_cons_self
      have code := Text.toNat_toUpper c
      have small : c.toUpper.isLower = false := by
        rw [← Bool.not_eq_true, Text.isLower_iff, code]
        split
        next lower =>
          have range := Text.isLower_iff.mp lower
          omega
        next other => exact fun range => other (Text.isLower_iff.mpr range)
      have ascii : c.toUpper.toNat < 128 := by
        have := toNat_lt_of_isWordChar own
        rw [code]
        split <;> omega
      simp [capitalised, Text.isLowercase_ascii ascii, small]

/-- Behind a capital, a capital starts a word where a small letter follows. -/
theorem startsWord_upper {c : Char} (upper : c.isUpper = true) (next : Option Char) :
    startsWord (some c) next = next.any Text.isLowercase := by
  have range := Text.isUpper_iff.mp upper
  have small : Text.isLowercase c = false := by
    rw [Text.isLowercase_ascii (by omega), ← Bool.not_eq_true, Text.isLower_iff]
    omega
  have digit : c.isDigit = false := by
    rw [← Bool.not_eq_true, Text.isDigit_iff]
    omega
  simp [startsWord, small, digit, Text.isUppercase_of_isUpper upper]

/-- Behind a small letter or a digit, a capital always starts a word. -/
theorem startsWord_wordChar {c : Char} (plain : isWordChar c = true) (next : Option Char) :
    startsWord (some c) next = true := by
  have small : (Text.isLowercase c || c.isDigit) = true := by
    rwa [Text.isLowercase_ascii (toNat_lt_of_isWordChar plain)]
  simp only [startsWord, small, if_true]

/-- Behind a word, a capitalised word starts a word exactly if it is one and may follow. -/
theorem breaks_iff {word next : List Char} {words : List (List Char)} {prev : Option Char}
    (is : IsWord word) (plain : ∀ w ∈ next :: words, ∀ c ∈ w, isWordChar c = true) :
    breaks (lastOf prev word) next (words.flatMap capitalised) = true ↔
      IsWord next ∧ MayFollow word next := by
  obtain ⟨here, later⟩ := List.forall_mem_cons.mp plain
  cases next with
  | nil => exact iff_of_false (by simp [breaks]) fun h => by obtain ⟨⟨_, _, ⟨⟩, _⟩, _⟩ := h
  | cons c rest =>
    have isWord : IsWord (c :: rest) ↔ c.isLower = true := by
      constructor
      · rintro ⟨_, _, ⟨⟩, letter, -⟩
        exact letter
      · exact fun letter => ⟨c, rest, rfl, letter, fun d mem => here d (List.mem_cons_of_mem _ mem)⟩
    rw [isWord, breaks, Bool.and_eq_true, and_congr_right_iff]
    intro _
    obtain ⟨first, tail, rfl, letter, plainTail⟩ := is
    cases tail with
    | nil =>
      have acronym : startsWord (lastOf prev [first]) (rest ++ words.flatMap capitalised).head? =
          (rest ++ words.flatMap capitalised).head?.any Text.isLowercase :=
        startsWord_upper (Text.isUpper_toUpper letter) _
      rw [acronym]
      cases rest with
      | nil =>
        rw [List.nil_append, isLowercase_head?_capitalised later]
        exact iff_of_false Bool.false_ne_true fun follows => by
          obtain ⟨_, _, _, ⟨⟩, _⟩ := follows rfl
      | cons d rest =>
        have ascii := toNat_lt_of_isWordChar (here d (by simp))
        have own : ((d :: rest) ++ words.flatMap capitalised).head?.any Text.isLowercase =
            d.isLower := Text.isLowercase_ascii ascii
        rw [own]
        constructor
        · exact fun small _ => ⟨c, d, rest, rfl, small⟩
        · intro follows
          obtain ⟨_, _, _, ⟨⟩, small⟩ := follows rfl
          exact small
    | cons second tail =>
      have nonempty : second :: tail ≠ [] := List.cons_ne_nil _ _
      have ends : lastOf prev (first :: second :: tail) =
          some ((second :: tail).getLast nonempty) := by
        rw [lastOf, capitalised, List.getLast?_cons_cons, List.getLast?_eq_some_getLast nonempty]
        rfl
      rw [ends, startsWord_wordChar (plainTail _ (List.getLast_mem nonempty))]
      exact iff_of_true rfl fun short => by simp at short

/-- Behind a word, capitalised words all start a word exactly if all are words and may follow each
other. -/
theorem allBreak_iff {word : List Char} {words : List (List Char)} {prev : Option Char}
    (is : IsWord word) (plain : ∀ w ∈ words, ∀ c ∈ w, isWordChar c = true) :
    AllBreak (lastOf prev word) words ↔
      (∀ w ∈ words, IsWord w) ∧ (word :: words).IsChain MayFollow := by
  induction words generalizing word prev with
  | nil => simp [AllBreak]
  | cons next words ih =>
    have later := (List.forall_mem_cons.mp plain).2
    rw [AllBreak, breaks_iff is plain, List.forall_mem_cons, List.isChain_cons_cons]
    constructor
    · rintro ⟨⟨isNext, follows⟩, all⟩
      obtain ⟨each, chain⟩ := (ih isNext later).mp all
      exact ⟨⟨isNext, each⟩, follows, chain⟩
    · rintro ⟨⟨isNext, each⟩, follows, chain⟩
      exact ⟨⟨isNext, follows⟩, (ih isNext later).mpr ⟨each, chain⟩⟩

/-! ## Names in words -/

/-- One or more words, joined by single underscores, that may follow each other. -/
def InWords (name : String) : Prop :=
  ∃ words, words ≠ [] ∧ name.toList = ['_'].intercalate words ∧ (∀ w ∈ words, IsWord w) ∧
    words.IsChain MayFollow

/-- The words of a name are capitalised and joined. -/
theorem pascal_of_words {name : String} {word : List Char} {words : List (List Char)}
    (chars : name.toList = ['_'].intercalate (word :: words))
    (plain : ∀ w ∈ word :: words, ∀ c ∈ w, isWordChar c = true) :
    (pascal name).toList = capitalised word ++ words.flatMap capitalised := by
  rw [pascal, chars, pascalFrom_intercalate plain, String.toList_ofList]

/-- The first word comes back as it was. The others come back as they stand in the joined text,
where a capital may not start a word. -/
theorem canonical_pascal_of_words {name : String} {word : List Char} {words : List (List Char)}
    (chars : name.toList = ['_'].intercalate (word :: words))
    (plain : ∀ w ∈ word :: words, ∀ c ∈ w, isWordChar c = true) :
    (canonical (pascal name)).toList =
      word ++ canonicalFrom (lastOf none word) (words.flatMap capitalised) := by
  have first : breaks none word (words.flatMap capitalised) = false := by
    cases word with
    | nil => rfl
    | cons c rest => simp [breaks, startsWord]
  rw [canonical, pascal_of_words chars plain,
    canonicalFrom_capitalised (plain word List.mem_cons_self), first, String.toList_ofList]
  rfl

/-- A name in words is the canonical form of its Pascal form. -/
theorem InWords.canonical_pascal {name : String} (inWords : InWords name) :
    canonical (pascal name) = name := by
  obtain ⟨_ | ⟨word, words⟩, some, chars, each, chain⟩ := inWords
  · exact absurd rfl some
  have plain : ∀ w ∈ word :: words, ∀ c ∈ w, isWordChar c = true := fun w mem =>
    (each w mem).isWordChar
  obtain ⟨isWord, eachLater⟩ := List.forall_mem_cons.mp each
  obtain ⟨-, plainLater⟩ := List.forall_mem_cons.mp plain
  have all := (@allBreak_iff _ _ none isWord plainLater).mpr ⟨eachLater, chain⟩
  rw [← String.toList_inj, canonical_pascal_of_words chars plain,
    canonicalFrom_of_allBreak plainLater all, chars, intercalate_cons]

theorem isSnake_of_mem_intercalate {word : List Char} {words : List (List Char)}
    (plain : ∀ w ∈ word :: words, ∀ c ∈ w, isWordChar c = true) {c : Char}
    (mem : c ∈ ['_'].intercalate (word :: words)) : isSnake c = true := by
  rw [intercalate_cons, List.mem_append, underscored, List.mem_flatMap] at mem
  rcases mem with first | ⟨w, later, within⟩
  · exact isSnake_of_isWordChar (plain word List.mem_cons_self c first)
  · rcases List.mem_cons.mp within with rfl | within
    · rfl
    · exact isSnake_of_isWordChar (plain w (List.mem_cons_of_mem _ later) c within)

theorem InWords.isSnake {name : String} (inWords : InWords name) :
    ∀ c ∈ name.toList, isSnake c = true := by
  obtain ⟨_ | ⟨word, words⟩, some, chars, each, -⟩ := inWords
  · exact absurd rfl some
  intro c mem
  exact isSnake_of_mem_intercalate (fun w mem => (each w mem).isWordChar) (chars ▸ mem)

/-- The Pascal form of a name in words is a capital with ASCII letters and digits behind it. -/
theorem InWords.pascal_eq {name : String} (inWords : InWords name) :
    ∃ c rest, (pascal name).toList = c :: rest ∧ c.isUpper = true ∧
      ∀ d ∈ rest, d.isAlphanum = true := by
  obtain ⟨_ | ⟨_, words⟩, some, chars, each, -⟩ := inWords
  · exact absurd rfl some
  obtain ⟨⟨c, rest, rfl, letter, plainRest⟩, later⟩ := List.forall_mem_cons.mp each
  have plain (d : Char) (is : isWordChar d = true) : d.isAlphanum = true := by
    rw [isWordChar, Bool.or_eq_true] at is
    rw [Char.isAlphanum, Text.isAlpha_eq, Bool.or_eq_true, Bool.or_eq_true]
    exact is.imp_left .inr
  refine ⟨c.toUpper, rest ++ words.flatMap capitalised,
    pascal_of_words chars fun w mem => (each w mem).isWordChar, Text.isUpper_toUpper letter, ?_⟩
  intro d mem
  rcases List.mem_append.mp mem with own | other
  · exact plain d (plainRest d own)
  · obtain ⟨w, memW, within⟩ := List.mem_flatMap.mp other
    obtain ⟨first, tail, rfl, small, plainTail⟩ := later w memW
    rcases List.mem_cons.mp within with rfl | within
    · rw [Char.isAlphanum, Text.isAlpha_eq, Text.isUpper_toUpper small]
      rfl
    · exact plain d (plainTail d within)

/-- Characters in snake case are words joined by underscores, some of which may be empty. -/
theorem exists_words {cs : List Char} (snake : ∀ c ∈ cs, isSnake c = true) :
    ∃ word words, cs = ['_'].intercalate (word :: words) ∧
      ∀ w ∈ word :: words, ∀ c ∈ w, isWordChar c = true := by
  induction cs with
  | nil => exact ⟨[], [], rfl, by simp⟩
  | cons c cs ih =>
    obtain ⟨here, later⟩ := List.forall_mem_cons.mp snake
    obtain ⟨word, words, rfl, plain⟩ := ih later
    by_cases underscore : c = '_'
    · subst underscore
      refine ⟨[], word :: words, ?_, List.forall_mem_cons.mpr ⟨by simp, plain⟩⟩
      rw [intercalate_cons, intercalate_cons]
      rfl
    · obtain ⟨plainWord, plainLater⟩ := List.forall_mem_cons.mp plain
      refine ⟨c :: word, words, by rw [intercalate_cons, intercalate_cons, List.cons_append],
        List.forall_mem_cons.mpr ⟨List.forall_mem_cons.mpr ⟨?_, plainWord⟩, plainLater⟩⟩
      exact isWordChar_of_isSnake here underscore

theorem count_underscored {words : List (List Char)}
    (plain : ∀ w ∈ words, ∀ c ∈ w, isWordChar c = true) :
    (underscored words).count '_' = words.length := by
  induction words with
  | nil => rfl
  | cons word words ih =>
    obtain ⟨here, later⟩ := List.forall_mem_cons.mp plain
    have cons : underscored (word :: words) = '_' :: word ++ underscored words := rfl
    rw [cons, List.count_append, List.count_cons_self, count_underscore here, ih later,
      List.length_cons]
    omega

/-- The first of capitalised words is a word, if the others start words and all of them together do
not begin with a digit. -/
theorem isWord_of_begins {word : List Char} {words : List (List Char)}
    (plain : ∀ c ∈ word, isWordChar c = true) (all : AllBreak (lastOf none word) words) {c : Char}
    {rest : List Char} (begins : capitalised word ++ words.flatMap capitalised = c :: rest)
    (noDigit : c.isDigit = false) : IsWord word := by
  cases word with
  | nil =>
    cases words with
    | nil => cases begins
    | cons next words =>
      -- Nothing stands before the next word, so it starts none.
      have starts := all.1
      cases next <;> simp [breaks, lastOf, capitalised, startsWord] at starts
  | cons d tail =>
    obtain ⟨here, later⟩ := List.forall_mem_cons.mp plain
    obtain ⟨rfl, -⟩ := List.cons.inj begins
    refine ⟨d, tail, rfl, ?_, later⟩
    by_contra other
    have same : d.toUpper = d := by
      rw [← Char.toNat_inj, Text.toNat_toUpper, if_neg other]
    have digit : d.isDigit = true := by
      rw [isWordChar, Bool.or_eq_true] at here
      exact here.resolve_left other
    rw [same, digit] at noDigit
    cases noDigit

/-- A name in snake case is in words, if it is the canonical form of its Pascal form and that begins
with no digit. -/
theorem inWords_of_canonical_pascal {name : String} (snake : ∀ c ∈ name.toList, isSnake c = true)
    {c : Char} {rest : List Char} (begins : (pascal name).toList = c :: rest)
    (noDigit : c.isDigit = false) (same : canonical (pascal name) = name) : InWords name := by
  obtain ⟨word, words, chars, plain⟩ := exists_words snake
  obtain ⟨plainWord, plainLater⟩ := List.forall_mem_cons.mp plain
  have back : canonicalFrom (lastOf none word) (words.flatMap capitalised) = underscored words := by
    have both := canonical_pascal_of_words chars plain
    rw [same, chars, intercalate_cons] at both
    exact (List.append_cancel_left both).symm
  have all : AllBreak (lastOf none word) words :=
    (count_canonicalFrom plainLater).2 (by rw [back, count_underscored plainLater])
  have isWord : IsWord word :=
    isWord_of_begins plainWord all ((pascal_of_words chars plain).symm.trans begins) noDigit
  obtain ⟨each, chain⟩ := (allBreak_iff isWord plainLater).mp all
  exact ⟨word :: words, List.cons_ne_nil _ _, chars, List.forall_mem_cons.mpr ⟨isWord, each⟩, chain⟩

end Rebac.Naming
