import Rebac.Proofs.Bindings.Identifier

/-!
# Identifiers as lexemes

What a name becomes can be written where an identifier is asked for: it is a word that is no
keyword, or a keyword marked as raw. A name makes an identifier of a value unless it is no word, and
two names make the same one only where the underscore behind a keyword meets a name that has it
already.
-/

namespace Rebac.Bindings

/-! ## The lexemes -/

/-- A word in ASCII: a letter, or an underscore that is not all, and then letters, digits and
underscores. -/
def IsPlainIdentifier (text : String) : Prop :=
  ∃ first rest, text.toList = first :: rest ∧ (first.isAlpha = true ∨ first = '_' ∧ rest ≠ []) ∧
    ∀ c ∈ rest, c.isAlphanum = true ∨ c = '_'

/-- A word with the mark of a raw identifier. The words that begin paths cannot have it. -/
def IsRawIdentifier (text : String) : Prop :=
  ∃ word, text = "r#" ++ word ∧ IsPlainIdentifier word ∧ word ∉ ["crate", "self", "super", "Self"]

/-- The words that are no identifiers without a mark: those that have a meaning, and those that are
kept for one. -/
def keywords : List String :=
  ["as", "async", "await", "break", "const", "continue", "crate", "dyn", "else", "enum", "extern",
    "false", "fn", "for", "if", "impl", "in", "let", "loop", "match", "mod", "move", "mut", "pub",
    "ref", "return", "self", "Self", "static", "struct", "super", "trait", "true", "type", "unsafe",
    "use", "where", "while"] ++
  ["abstract", "become", "box", "do", "final", "gen", "macro", "override", "priv", "try", "typeof",
    "unsized", "virtual", "yield"]

theorem isIdentifier_iff {name : String} :
    isIdentifier name = true ↔ IsPlainIdentifier name ∨ name = "_" := by
  have lone : name = "_" ↔ name.toList = ['_'] := by
    rw [← String.toList_inj]
    rfl
  rw [lone]
  unfold isIdentifier IsPlainIdentifier
  cases name.toList with
  | nil => simp
  | cons first rest =>
    simp only [Bool.and_eq_true, List.all_eq_true, isIdentifierStart, isIdentifierPart,
      Bool.or_eq_true, decide_eq_true_eq, List.cons.injEq]
    constructor
    · rintro ⟨letter | rfl, parts⟩
      · exact .inl ⟨first, rest, ⟨rfl, rfl⟩, .inl letter, parts⟩
      · by_cases alone : rest = []
        · exact .inr ⟨rfl, alone⟩
        · exact .inl ⟨'_', rest, ⟨rfl, rfl⟩, .inr ⟨rfl, alone⟩, parts⟩
    · rintro (⟨_, _, ⟨rfl, rfl⟩, start, parts⟩ | ⟨rfl, rfl⟩)
      · exact ⟨start.imp_right And.left, parts⟩
      · exact ⟨.inr rfl, by simp⟩

/-- A word has no mark. -/
theorem IsPlainIdentifier.hash_not_mem {text : String} (plain : IsPlainIdentifier text) :
    '#' ∉ text.toList := by
  obtain ⟨first, rest, chars, start, parts⟩ := plain
  rw [chars, List.mem_cons, not_or]
  refine ⟨?_, fun mem => (parts '#' mem).elim (by decide) (by decide)⟩
  rintro rfl
  exact start.elim (by decide) fun underscore => absurd underscore.1 (by decide)

theorem IsPlainIdentifier.not_raw {text : String} (plain : IsPlainIdentifier text) :
    ¬ IsRawIdentifier text := by
  rintro ⟨word, rfl, -⟩
  exact plain.hash_not_mem (by simp)

/-! ## Keywords -/

/-- A keyword of paths is a plain identifier with an underscore behind it, and no keyword. -/
theorem pathKeyword_escaped {name : String} (keyword : name ∈ pathKeywords) :
    isIdentifier (name ++ "_") = true ∧ name ++ "_" ≠ "_" ∧ name ++ "_" ∉ keywords ∧
      name ++ "_" ∉ pathKeywords ∧ name ++ "_" ∉ rawKeywords := by
  revert name
  decide

theorem pathKeyword_plain {name : String} (keyword : name ∈ pathKeywords) :
    IsPlainIdentifier (name ++ "_") := by
  obtain ⟨word, more, -⟩ := pathKeyword_escaped keyword
  exact (isIdentifier_iff.mp word).resolve_right more

theorem mem_keywords_cases {word : String} (keyword : word ∈ keywords) :
    word ∈ pathKeywords ∨ word ∈ rawKeywords := by
  revert word
  decide

/-! ## What a name becomes -/

theorem isIdentifier_iff_of_not_path {name : String} (other : name ∉ pathKeywords) :
    isIdentifier name = true ↔ IsPlainIdentifier name := by
  rw [isIdentifier_iff]
  refine or_iff_left ?_
  rintro rfl
  exact other (by decide)

/-- A keyword of paths gets an underscore, and of the other words a keyword gets the mark. -/
theorem valueIdentifier?_eq_some {name identifier : String} :
    valueIdentifier? name = some identifier ↔
      (name ∈ pathKeywords ∧ identifier = name ++ "_") ∨
        (name ∉ pathKeywords ∧ IsPlainIdentifier name ∧
          identifier = if name ∈ rawKeywords then "r#" ++ name else name) := by
  unfold valueIdentifier?
  by_cases path : name ∈ pathKeywords
  · simp [path, eq_comm]
  · rw [← isIdentifier_iff_of_not_path path]
    cases isIdentifier name <;> by_cases raw : name ∈ rawKeywords <;> simp [path, raw, eq_comm]

theorem typeIdentifier?_eq_some {name identifier : String} :
    typeIdentifier? name = some identifier ↔
      (name ∈ pathKeywords ∧ identifier = name ++ "_") ∨
        (name ∉ pathKeywords ∧ IsPlainIdentifier name ∧ identifier = name) := by
  unfold typeIdentifier?
  by_cases path : name ∈ pathKeywords
  · simp [path, eq_comm]
  · rw [← isIdentifier_iff_of_not_path path]
    cases isIdentifier name <;> simp [path, eq_comm]

theorem valueIdentifier?_eq_none {name : String} :
    valueIdentifier? name = none ↔ ¬ IsPlainIdentifier name ∧ name ∉ pathKeywords := by
  simp only [Option.eq_none_iff_forall_ne_some, ne_eq, valueIdentifier?_eq_some, not_or, not_and]
  constructor
  · intro none
    have path : name ∉ pathKeywords := fun path => (none (name ++ "_")).1 path rfl
    exact ⟨fun plain => (none _).2 path plain rfl, path⟩
  · exact fun ⟨word, path⟩ identifier => ⟨fun own => absurd own path, fun _ own => absurd own word⟩

/-- The identifier of a value is a word that is no keyword, or a keyword with the mark. -/
theorem lexeme_of_value {name identifier : String}
    (named : valueIdentifier? name = some identifier) :
    (IsPlainIdentifier identifier ∨ IsRawIdentifier identifier) ∧ identifier ∉ keywords := by
  rcases valueIdentifier?_eq_some.mp named with ⟨path, rfl⟩ | ⟨path, plain, rfl⟩
  · exact ⟨.inl (pathKeyword_plain path), (pathKeyword_escaped path).2.2.1⟩
  · split
    next raw =>
      have marked : IsRawIdentifier ("r#" ++ name) := by
        have paths : ∀ word ∈ ["crate", "self", "super", "Self"], word ∈ pathKeywords := by decide
        exact ⟨name, rfl, plain, fun first => path (paths name first)⟩
      refine ⟨.inr marked, fun keyword => ?_⟩
      have words : ∀ word ∈ keywords, '#' ∉ word.toList := by decide
      exact words _ keyword (by simp)
    next raw =>
      exact ⟨.inl plain, fun keyword => (mem_keywords_cases keyword).elim path raw⟩

theorem lexeme_of_type {name identifier : String} (named : typeIdentifier? name = some identifier) :
    IsPlainIdentifier identifier := by
  rcases typeIdentifier?_eq_some.mp named with ⟨path, rfl⟩ | ⟨-, plain, rfl⟩
  · exact pathKeyword_plain path
  · exact plain

/-- A Pascal form does not begin with a small ASCII letter. -/
theorem isLower_head_pascal {name : String} {first : Char}
    (begins : (Naming.pascal name).toList.head? = some first) : first.isLower = false := by
  rw [Naming.pascal, String.toList_ofList] at begins
  generalize name.toList = cs at begins
  induction cs with
  | nil => cases begins
  | cons c rest ih =>
    simp only [Naming.pascalFrom, if_true] at begins
    split at begins
    · exact ih begins
    · obtain ⟨d, more, form⟩ := List.exists_cons_of_ne_nil (Text.upperForm_ne_nil c)
      rw [form] at begins
      cases begins
      exact Text.isLower_of_mem_upperForm (form ▸ List.mem_cons_self)

/-- The identifier of a type is no keyword, because the only keyword that begins with a capital is
one of paths. -/
theorem keyword_of_type_pascal {name identifier : String}
    (named : typeIdentifier? (Naming.pascal name) = some identifier) : identifier ∉ keywords := by
  rcases typeIdentifier?_eq_some.mp named with ⟨path, rfl⟩ | ⟨path, -, rfl⟩
  · exact (pathKeyword_escaped path).2.2.1
  · intro keyword
    have small : ∀ word ∈ keywords, word ∉ pathKeywords →
        word.toList.head?.any Char.isLower = true := by decide
    obtain ⟨c, begins, lower⟩ := (Option.any_eq_true _ _).mp (small _ keyword path)
    rw [isLower_head_pascal begins] at lower
    cases lower

/-! ## Names that become the same -/

/-- The name becomes this identifier, of a value or of a type. -/
def Becomes (name identifier : String) : Prop :=
  valueIdentifier? name = some identifier ∨ typeIdentifier? name = some identifier

/-- A name becomes itself behind nothing or the mark, unless it is a keyword of paths. -/
theorem Becomes.cases {name identifier : String} (becomes : Becomes name identifier) :
    (name ∈ pathKeywords ∧ identifier = name ++ "_") ∨
      (IsPlainIdentifier name ∧ (identifier = name ∨ identifier = "r#" ++ name)) := by
  rcases becomes with value | type
  · refine (valueIdentifier?_eq_some.mp value).imp_right ?_
    rintro ⟨-, plain, rfl⟩
    exact ⟨plain, by split <;> simp⟩
  · exact (typeIdentifier?_eq_some.mp type).imp_right fun ⟨_, plain, same⟩ => ⟨plain, .inl same⟩

/-- Different names become the same only where one is a keyword of paths, and the other is it with
its underscore. -/
theorem Becomes.same {a b identifier : String} (first : Becomes a identifier)
    (second : Becomes b identifier) (differ : a ≠ b) :
    (a ∈ pathKeywords ∧ b = a ++ "_") ∨ (b ∈ pathKeywords ∧ a = b ++ "_") := by
  have marked {word name : String} (plain : IsPlainIdentifier word) : word ≠ "r#" ++ name := by
    rintro rfl
    exact plain.hash_not_mem (by simp)
  rcases first.cases with ⟨path, rfl⟩ | ⟨plain, rfl | rfl⟩ <;>
    rcases second.cases with ⟨path', same⟩ | ⟨plain', same | same⟩
  · exact absurd ((String.append_left_inj "_").mp same) differ
  · exact .inl ⟨path, same.symm⟩
  · exact absurd same (marked (pathKeyword_plain path))
  · exact .inr ⟨path', same⟩
  · exact absurd same differ
  · exact absurd same (marked plain)
  · exact absurd same.symm (marked (pathKeyword_plain path'))
  · exact absurd same.symm (marked plain')
  · exact absurd ((String.append_right_inj "r#").mp same) differ

/-- A keyword of paths becomes what it is with its underscore, and so does that. -/
theorem becomes_escaped {name : String} (path : name ∈ pathKeywords) :
    Becomes name (name ++ "_") ∧ Becomes (name ++ "_") (name ++ "_") := by
  obtain ⟨-, -, -, path', raw⟩ := pathKeyword_escaped path
  refine ⟨.inl (valueIdentifier?_eq_some.mpr (.inl ⟨path, rfl⟩)),
    .inl (valueIdentifier?_eq_some.mpr (.inr ⟨path', pathKeyword_plain path, ?_⟩))⟩
  rw [if_neg raw]

/-- Every identifier that a name becomes is a word that is no keyword or, of values alone, a word
with the mark of a raw identifier; the identifier of a type is no keyword if the name is a Pascal
form. A name makes no identifier of a value exactly if it is neither a word nor a keyword of paths.
Different names become the same exactly if one is a keyword of paths and the other is it with an
underscore. -/
theorem identifiers_are_lexemes (name : String) :
    (∀ identifier, valueIdentifier? name = some identifier →
      (IsPlainIdentifier identifier ∨ IsRawIdentifier identifier) ∧ identifier ∉ keywords) ∧
    (∀ identifier, typeIdentifier? name = some identifier →
      IsPlainIdentifier identifier ∧ ¬ IsRawIdentifier identifier) ∧
    (∀ identifier, typeIdentifier? (Naming.pascal name) = some identifier →
      identifier ∉ keywords) ∧
    (valueIdentifier? name = none ↔ ¬ IsPlainIdentifier name ∧ name ∉ pathKeywords) ∧
    ∀ other, name ≠ other →
      ((∃ identifier, Becomes name identifier ∧ Becomes other identifier) ↔
        (name ∈ pathKeywords ∧ other = name ++ "_") ∨
          (other ∈ pathKeywords ∧ name = other ++ "_")) := by
  refine ⟨fun _ => lexeme_of_value, fun _ named => ?_, fun _ => keyword_of_type_pascal,
    valueIdentifier?_eq_none, fun other differ => ⟨?_, ?_⟩⟩
  · exact ⟨lexeme_of_type named, (lexeme_of_type named).not_raw⟩
  · rintro ⟨identifier, first, second⟩
    exact first.same second differ
  · rintro (⟨path, rfl⟩ | ⟨path, rfl⟩)
    · exact ⟨_, becomes_escaped path⟩
    · exact ⟨_, (becomes_escaped path).symm⟩

/-- A name that cannot be written raw gets an underscore, as a value and as a type. So it collides
with the name that already ends in one. -/
theorem identifiers_are_lexemes_self :
    valueIdentifier? "self" = some "self_" ∧ "self_" ∉ keywords ∧
      typeIdentifier? "Self" = some "Self_" ∧ IsPlainIdentifier "Self_" ∧
      Naming.pascal "self" = "Self" ∧ "Self_" ∉ keywords ∧
      "self" ≠ "self_" ∧ ∃ identifier, Becomes "self" identifier ∧ Becomes "self_" identifier := by
  obtain ⟨value, -, type, -, collision⟩ := identifiers_are_lexemes "self"
  have pascal : Naming.pascal "self" = "Self" := by decide +kernel
  have named : typeIdentifier? "Self" = some "Self_" := by decide
  have differ : "self" ≠ "self_" := by decide
  exact ⟨by decide, (value "self_" (by decide)).2, named,
    ((identifiers_are_lexemes "Self").2.1 "Self_" named).1, pascal,
    type "Self_" (by rw [pascal, named]), differ,
    (collision "self_" differ).mpr (.inl ⟨by decide, by decide⟩)⟩

end Rebac.Bindings
