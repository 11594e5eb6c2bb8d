import Mathlib.Data.List.Nodup
import Rebac.Bindings.Source
import Rebac.Proofs.Bindings.ConditionPlan
import Rebac.Proofs.Bindings.Lexeme
import Rebac.Proofs.Text.Affix

/-!
# Names of arguments

An argument has the name of its parameter without the phase, or in full where two parameters of the
phase would have the same name. Such a full name may meet the short name of a third parameter, whose
name has the phase twice. The main statement says that this is all that can go wrong with parameters
whose names are words in small letters: their condition is planned exactly if no name stands among
them bare, with the phase and with the phase twice.
-/

namespace Rebac.Bindings

open Schema (Condition Parameter initTail providedTail)

/-! ## Names of parameters -/

/-- Small letters, digits and underscores, of which the first is a letter. -/
def IsSnakeName (name : String) : Prop :=
  (∃ first ∈ name.toList.head?, first.isLower = true) ∧
    ∀ c ∈ name.toList, Naming.isSnake c = true

instance (name : String) : Decidable (IsSnakeName name) :=
  decidable_of_iff
    (name.toList.head?.any Char.isLower = true ∧ name.toList.all Naming.isSnake = true)
    (and_congr (Option.any_eq_true _ _) List.all_eq_true)

/-- A name in snake case that is no keyword of paths, and would not be one without its phase. -/
structure IsParameterName (name : String) : Prop where
  snake : IsSnakeName name
  free : ∀ keyword ∈ ["self", "super", "crate"], ∀ tail ∈ ["", initTail, providedTail],
    name ≠ keyword ++ tail

instance (name : String) : Decidable (IsParameterName name) :=
  decidable_of_iff (IsSnakeName name ∧ ∀ keyword ∈ ["self", "super", "crate"],
      ∀ tail ∈ ["", initTail, providedTail], name ≠ keyword ++ tail)
    ⟨fun both => ⟨both.1, both.2⟩, fun named => ⟨named.snake, named.free⟩⟩

/-- A name that tells no phase. -/
def IsBare (name : String) : Prop :=
  Text.endsWith name initTail = false ∧ Text.endsWith name providedTail = false

instance (name : String) : Decidable (IsBare name) := inferInstanceAs (Decidable (_ ∧ _))

/-- A name in snake case has the form of an identifier. -/
theorem IsSnakeName.plain {name : String} (snake : IsSnakeName name) : IsPlainIdentifier name := by
  obtain ⟨⟨first, begins, letter⟩, parts⟩ := snake
  obtain ⟨rest, chars⟩ := List.head?_eq_some_iff.mp begins
  refine ⟨first, rest, chars, .inl (by rw [Text.isAlpha_eq, letter, Bool.or_true]), fun c mem => ?_⟩
  have part := parts c (by rw [chars]; exact List.mem_cons_of_mem _ mem)
  rw [Naming.isSnake, Bool.or_eq_true, decide_eq_true_eq] at part
  refine part.imp_left fun plain => ?_
  rw [Char.isAlphanum, Text.isAlpha_eq, Bool.or_assoc, plain, Bool.or_true]

theorem IsSnakeName.ne_empty {name : String} (snake : IsSnakeName name) : name ≠ "" := by
  rintro rfl
  obtain ⟨⟨_, begins, -⟩, -⟩ := snake
  cases begins

/-- What stands before an underscore in a name in snake case is one too. -/
theorem IsSnakeName.front {name tail : String} (underscore : tail.toList.head? = some '_')
    (snake : IsSnakeName (name ++ tail)) : IsSnakeName name := by
  obtain ⟨⟨first, begins, letter⟩, parts⟩ := snake
  rw [String.toList_append] at begins parts
  refine ⟨⟨first, ?_, letter⟩, fun c mem => parts c (List.mem_append_left _ mem)⟩
  cases own : name.toList with
  | nil =>
    rw [own, List.nil_append, underscore] at begins
    cases begins
    cases letter
  | cons c cs =>
    rw [own] at begins
    exact begins

theorem not_isBare_of_init {name front : String} (own : name = front ++ initTail) :
    ¬ IsBare name := by
  rintro ⟨init, -⟩
  rw [Text.endsWith_iff.mpr ⟨front, own⟩] at init
  cases init

theorem not_provided_of_init (name : String) :
    Text.endsWith (name ++ initTail) providedTail = false := by
  rw [← Bool.not_eq_true, Text.endsWith_iff]
  rintro ⟨front, same⟩
  have last := congrArg (fun s => s.toList.getLast?) same
  simp [initTail, providedTail] at last

section

variable {p : Parameter} {name : String}

theorem shortName_of_bare (snake : IsSnakeName p.name) (bare : IsBare p.name) :
    shortName p = p.name := by
  have whole : p.displayName = p.name := by
    simp only [Parameter.displayName, Text.beforeTail?_eq_none.mpr bare.1,
      Text.beforeTail?_eq_none.mpr bare.2, Option.or_none]
  rw [shortName, whole, Naming.canonical_of_isSnake snake.2]

/-- A name with a phase is short without it. -/
theorem shortName_of_tail {tail : String} (phase : tail = initTail ∨ tail = providedTail)
    (snake : IsSnakeName p.name) (own : p.name = name ++ tail) : shortName p = name := by
  rw [own] at snake
  have front : IsSnakeName name := snake.front (by rcases phase with rfl | rfl <;> rfl)
  have stripped? : (Text.beforeTail? p.name providedTail).or (Text.beforeTail? p.name initTail) =
      some name := by
    rcases phase with rfl | rfl
    · rw [own, Text.beforeTail?_eq_none.mpr (not_provided_of_init name), Text.beforeTail?_append]
      rfl
    · rw [own, Text.beforeTail?_append]
      rfl
  have stripped : p.displayName = name := by
    rw [Parameter.displayName, stripped?]
    exact if_neg front.ne_empty
  rw [shortName, stripped, Naming.canonical_of_isSnake front.2]

theorem phase_eq_init : p.phase = .init ↔ Text.endsWith p.name providedTail = false := by
  unfold Parameter.phase
  split <;> simp_all

theorem phase_eq_provided : p.phase = .provided ↔ ∃ name, p.name = name ++ providedTail := by
  rw [← Text.endsWith_iff]
  unfold Parameter.phase
  split <;> simp_all

/-- A parameter bound when the tuple is written has a bare name, or one that tells so. -/
theorem bare_or_init (phase : p.phase = .init) :
    IsBare p.name ∨ ∃ name, p.name = name ++ initTail := by
  rw [phase_eq_init] at phase
  cases ends : Text.endsWith p.name initTail with
  | false => exact .inl ⟨ends, phase⟩
  | true => exact .inr (Text.endsWith_iff.mp ends)

end

/-! ## Names of arguments -/

/-- A value comes up again in a list exactly if it belongs to another element. -/
theorem one_lt_count_map {α β : Type} [DecidableEq β] {f : α → β} {xs : List α} (nodup : xs.Nodup)
    {x : α} (mem : x ∈ xs) : 1 < (xs.map f).count (f x) ↔ ∃ y ∈ xs, y ≠ x ∧ f y = f x := by
  obtain ⟨before, after, rfl⟩ := List.append_of_mem mem
  have others : ∀ y ∈ before ++ after, y ≠ x := by
    rintro y other rfl
    rw [List.nodup_middle, List.nodup_cons] at nodup
    exact nodup.1 other
  have count : ((before ++ x :: after).map f).count (f x) =
      ((before ++ after).map f).count (f x) + 1 := by
    simp only [List.map_append, List.map_cons, List.count_append, List.count_cons_self]
    omega
  rw [count, Nat.lt_add_left_iff_pos, List.count_pos_iff, List.mem_map]
  constructor
  · rintro ⟨y, other, same⟩
    refine ⟨y, ?_, others y other, same⟩
    rw [List.mem_append] at other
    exact List.mem_append.mpr (other.imp_right (List.mem_cons_of_mem x))
  · rintro ⟨y, mem, ne, same⟩
    refine ⟨y, ?_, same⟩
    rw [List.mem_append, List.mem_cons] at mem
    rw [List.mem_append]
    exact mem.imp_right fun h => h.resolve_left ne

/-- The parameters of one phase, with names that differ. -/
structure DistinctParameters (parameters : List Parameter) : Prop where
  named : ∀ p ∈ parameters, IsParameterName p.name
  distinct : (parameters.map (·.name)).Nodup

namespace DistinctParameters

variable {parameters : List Parameter} (own : DistinctParameters parameters)

include own

theorem eq_of_name {p q : Parameter} (mem : p ∈ parameters) (mem' : q ∈ parameters)
    (same : p.name = q.name) : p = q :=
  List.inj_on_of_nodup_map own.distinct mem mem' same

theorem filter (keep : Parameter → Bool) : DistinctParameters (parameters.filter keep) where
  named p mem := own.named p (List.mem_of_mem_filter mem)
  distinct := own.distinct.sublist (List.filter_sublist.map _)

/-- Two parameters whose short names are the same both keep their full names. Only other parameters
count, since the names are distinct. -/
theorem argumentName_eq {p : Parameter} (mem : p ∈ parameters) :
    argumentName (parameters.map shortName) p =
      if ∃ q ∈ parameters, q ≠ p ∧ shortName q = shortName p then p.name else shortName p := by
  have full : Naming.canonical p.name = p.name :=
    Naming.canonical_of_isSnake (own.named p mem).snake.2
  have count := one_lt_count_map (f := shortName) (List.Nodup.of_map _ own.distinct) mem
  rw [argumentName, full]
  exact if_congr count rfl rfl

/-- A name that tells no phase is its own argument. Its short name is the same, so a clash does not
change it. -/
theorem argumentName_of_bare {p : Parameter} (mem : p ∈ parameters) (bare : IsBare p.name) :
    argumentName (parameters.map shortName) p = p.name := by
  rw [own.argumentName_eq mem, shortName_of_bare (own.named p mem).snake bare, ite_self]

/-- A name with a phase clashes with the name that is left without it, if that one tells no phase,
and with no other. -/
theorem clash_iff {p : Parameter} {name : String} (init : ∀ q ∈ parameters, q.phase = .init)
    (mem : p ∈ parameters) (short : p.name = name ++ initTail) :
    (∃ q ∈ parameters, q ≠ p ∧ shortName q = shortName p) ↔
      IsBare name ∧ name ∈ parameters.map (·.name) := by
  rw [shortName_of_tail (.inl rfl) (own.named p mem).snake short]
  constructor
  · rintro ⟨q, mem', other, same⟩
    rcases bare_or_init (init q mem') with bare | ⟨name', own'⟩
    · rw [shortName_of_bare (own.named q mem').snake bare] at same
      exact ⟨same ▸ bare, List.mem_map.mpr ⟨q, mem', same⟩⟩
    · rw [shortName_of_tail (.inl rfl) (own.named q mem').snake own'] at same
      exact absurd (own.eq_of_name mem' mem (by rw [own', short, same])) other
  · rintro ⟨bare, named⟩
    obtain ⟨q, mem', rfl⟩ := List.mem_map.mp named
    refine ⟨q, mem', ?_, shortName_of_bare (own.named q mem').snake bare⟩
    rintro rfl
    exact not_isBare_of_init short bare

theorem argumentName_of_init {p : Parameter} {name : String}
    (init : ∀ q ∈ parameters, q.phase = .init) (mem : p ∈ parameters)
    (short : p.name = name ++ initTail) :
    (IsBare name ∧ name ∈ parameters.map (·.name) ∧
        argumentName (parameters.map shortName) p = p.name) ∨
      (¬ (IsBare name ∧ name ∈ parameters.map (·.name)) ∧
        argumentName (parameters.map shortName) p = name) := by
  rw [own.argumentName_eq mem, shortName_of_tail (.inl rfl) (own.named p mem).snake short]
  have clash := own.clash_iff init mem short
  rw [shortName_of_tail (.inl rfl) (own.named p mem).snake short] at clash
  split
  next clashes => exact .inl ⟨(clash.mp clashes).1, (clash.mp clashes).2, rfl⟩
  next free => exact .inr ⟨fun both => free (clash.mpr both), rfl⟩

/-- A parameter with a bare name and one with a phase have different names of arguments. -/
theorem argumentName_ne {p q : Parameter} {name : String}
    (init : ∀ q ∈ parameters, q.phase = .init) (mem : p ∈ parameters) (mem' : q ∈ parameters)
    (bare : IsBare p.name) (short : q.name = name ++ initTail) :
    argumentName (parameters.map shortName) p ≠ argumentName (parameters.map shortName) q := by
  rw [own.argumentName_of_bare mem bare]
  rcases own.argumentName_of_init init mem' short with ⟨-, -, full⟩ | ⟨free, stripped⟩
  · rw [full]
    exact fun same => not_isBare_of_init (same.trans short) bare
  · rw [stripped]
    rintro rfl
    exact free ⟨bare, List.mem_map_of_mem mem⟩

end DistinctParameters

/-- A name tells no phase, and it stands among these bare, with the phase and with the phase
twice. -/
structure IsChained (names : List String) (name : String) : Prop where
  bare : IsBare name
  alone : name ∈ names
  once : name ++ initTail ∈ names
  twice : name ++ initTail ++ initTail ∈ names

instance (names : List String) (name : String) : Decidable (IsChained names name) :=
  decidable_of_iff (IsBare name ∧ name ∈ names ∧ name ++ initTail ∈ names ∧
      name ++ initTail ++ initTail ∈ names)
    ⟨fun all => ⟨all.1, all.2.1, all.2.2.1, all.2.2.2⟩,
      fun chained => ⟨chained.bare, chained.alone, chained.once, chained.twice⟩⟩

/-- A full name meets a short one only around a chained name. -/
theorem isChained_of_meets {parameters : List Parameter} {p q : Parameter} {name name' : String}
    (mem : p ∈ parameters) (mem' : q ∈ parameters) (short : p.name = name ++ initTail)
    (short' : q.name = name' ++ initTail) (bare : IsBare name)
    (alone : name ∈ parameters.map (·.name)) (meets : p.name = name') :
    IsChained (parameters.map (·.name)) name where
  bare := bare
  alone := alone
  once := short ▸ List.mem_map_of_mem mem
  twice := by
    rw [← short, meets, ← short']
    exact List.mem_map_of_mem mem'

namespace DistinctParameters

variable {parameters : List Parameter} (own : DistinctParameters parameters)
  (init : ∀ p ∈ parameters, p.phase = .init)

include own init

/-- Around a chained name, the parameter that has the phase twice is short for what another one
keeps in full. -/
theorem not_nodup_of_isChained {name : String}
    (chained : IsChained (parameters.map (·.name)) name) :
    ¬ (parameters.map (argumentName (parameters.map shortName))).Nodup := by
  intro nodup
  obtain ⟨p, mem, short⟩ := List.mem_map.mp chained.once
  obtain ⟨q, mem', short'⟩ := List.mem_map.mp chained.twice
  have full : argumentName (parameters.map shortName) p = name ++ initTail := by
    rcases own.argumentName_of_init init mem short with ⟨-, -, full⟩ | ⟨free, -⟩
    · rw [full, short]
    · exact absurd ⟨chained.bare, chained.alone⟩ free
  have stripped : argumentName (parameters.map shortName) q = name ++ initTail := by
    rcases own.argumentName_of_init init mem' short' with ⟨bare, -⟩ | ⟨-, stripped⟩
    · exact absurd bare (not_isBare_of_init rfl)
    · exact stripped
  obtain rfl := List.inj_on_of_nodup_map nodup mem mem' (full.trans stripped.symm)
  have longer := congrArg String.length (short.symm.trans short')
  simp [initTail] at longer

/-- Of the parameters bound when a tuple is written, two have one name of an argument exactly if a
name is chained. -/
theorem nodup_argumentNames_iff :
    (parameters.map (argumentName (parameters.map shortName))).Nodup ↔
      ∀ name, ¬ IsChained (parameters.map (·.name)) name := by
  refine ⟨fun nodup name chained => own.not_nodup_of_isChained init chained nodup, fun free => ?_⟩
  refine List.Nodup.map_on (fun p mem q mem' same => ?_) (List.Nodup.of_map _ own.distinct)
  rcases bare_or_init (init p mem) with bare | ⟨name, short⟩ <;>
    rcases bare_or_init (init q mem') with bare' | ⟨name', short'⟩
  · rw [own.argumentName_of_bare mem bare, own.argumentName_of_bare mem' bare'] at same
    exact own.eq_of_name mem mem' same
  · exact absurd same (own.argumentName_ne init mem mem' bare short')
  · exact absurd same.symm (own.argumentName_ne init mem' mem bare' short)
  · rcases own.argumentName_of_init init mem short with ⟨bare, alone, full⟩ | ⟨-, stripped⟩ <;>
      rcases own.argumentName_of_init init mem' short' with ⟨bare', alone', full'⟩ | ⟨-, stripped'⟩
    · rw [full, full'] at same
      exact own.eq_of_name mem mem' same
    · rw [full, stripped'] at same
      exact absurd (isChained_of_meets mem mem' short short' bare alone same) (free name)
    · rw [stripped, full'] at same
      exact absurd (isChained_of_meets mem' mem short' short bare' alone' same.symm)
        (free name')
    · rw [stripped, stripped'] at same
      exact own.eq_of_name mem mem' (by rw [short, short', same])

end DistinctParameters

/-! ## Arguments -/

/-- Identifiers of arguments are planned exactly if they differ and none is taken. -/
theorem exists_argumentPlansFrom {condition : String} {shortNames taken arguments : List String}
    {parameters : List Parameter}
    (named : parameters.map (fun p => valueIdentifier? (argumentName shortNames p)) =
      arguments.map some) :
    (∃ plans, argumentPlansFrom condition shortNames taken parameters = .ok plans) ↔
      arguments.Nodup ∧ ∀ a ∈ arguments, a ∉ taken := by
  induction parameters generalizing arguments taken with
  | nil =>
    obtain rfl := List.map_eq_nil_iff.mp named.symm
    exact iff_of_true ⟨[], rfl⟩ ⟨List.nodup_nil, by simp⟩
  | cons p rest ih =>
    cases arguments with
    | nil => cases named
    | cons argument others =>
      obtain ⟨first, later⟩ := List.cons.inj named
      simp only [argumentPlansFrom, first]
      split
      next known =>
        refine iff_of_false ?_ fun holds => holds.2 argument List.mem_cons_self known
        rintro ⟨_, ⟨⟩⟩
      next fresh =>
        rw [exists_bind_eq_ok]
        simp only [exists_pure_eq_ok, and_true, ih later, List.nodup_cons, List.mem_cons, not_or,
          forall_eq_or_imp]
        constructor
        · rintro ⟨distinct, unseen⟩
          exact ⟨⟨fun again => (unseen argument again).1 rfl, distinct⟩, fresh,
            fun a mem => (unseen a mem).2⟩
        · rintro ⟨⟨once, distinct⟩, -, unseen⟩
          exact ⟨distinct, fun a mem => ⟨fun same => once (same ▸ mem), unseen a mem⟩⟩

/-- A name in snake case that is no keyword of paths. -/
def IsArgumentName (name : String) : Prop := IsSnakeName name ∧ name ∉ pathKeywords

/-- The three names of paths are the only ones in snake case that cannot be escaped. -/
theorem IsSnakeName.isArgumentName {name : String} (snake : IsSnakeName name)
    (free : name ∉ ["self", "super", "crate"]) : IsArgumentName name := by
  refine ⟨snake, fun path => ?_⟩
  have small : ∀ keyword ∈ pathKeywords, keyword ∈ ["self", "super", "crate"] ∨
      keyword.toList.head?.any Char.isLower = false := by decide
  obtain ⟨⟨first, begins, letter⟩, -⟩ := snake
  rcases small name path with known | capital
  · exact free known
  · rw [Option.mem_def.mp begins, Option.any_some, letter] at capital
    cases capital

/-- The identifier of an argument. -/
def argumentOf (name : String) : String := if name ∈ rawKeywords then "r#" ++ name else name

theorem IsArgumentName.value {name : String} (argument : IsArgumentName name) :
    valueIdentifier? name = some (argumentOf name) :=
  valueIdentifier?_eq_some.mpr (.inr ⟨argument.2, argument.1.plain, rfl⟩)

theorem argumentOf_inj {a b : String} (first : IsArgumentName a) (second : IsArgumentName b)
    (same : argumentOf a = argumentOf b) : a = b := by
  by_contra differ
  have becomes : Becomes b (argumentOf a) := same ▸ .inl second.value
  rcases Becomes.same (.inl first.value) becomes differ with ⟨path, -⟩ | ⟨path, -⟩
  · exact first.2 path
  · exact second.2 path

/-- The short name of a parameter makes an argument, and so does the full one. -/
theorem IsParameterName.isArgumentName {p : Parameter} (named : IsParameterName p.name) :
    IsArgumentName p.name ∧ IsArgumentName (shortName p) := by
  have full : IsArgumentName p.name := by
    refine named.snake.isArgumentName fun known => ?_
    exact named.free p.name known "" List.mem_cons_self String.append_empty.symm
  have short {tail name : String} (phase : tail = initTail ∨ tail = providedTail)
      (own : p.name = name ++ tail) : IsArgumentName (shortName p) := by
    have snake : IsSnakeName (name ++ tail) := own ▸ named.snake
    have front : IsSnakeName name := snake.front (by rcases phase with rfl | rfl <;> rfl)
    rw [shortName_of_tail phase named.snake own]
    refine front.isArgumentName fun known => named.free name known tail ?_ own
    rcases phase with rfl | rfl <;> simp
  refine ⟨full, ?_⟩
  cases phase : p.phase with
  | init =>
    rcases bare_or_init phase with bare | ⟨name, own⟩
    · rw [shortName_of_bare named.snake bare]
      exact full
    · exact short (.inl rfl) own
  | provided =>
    obtain ⟨name, own⟩ := phase_eq_provided.mp phase
    exact short (.inr rfl) own

namespace DistinctParameters

variable {parameters : List Parameter} (own : DistinctParameters parameters)

include own

/-- The arguments of a phase are planned exactly if their names differ. -/
theorem exists_argumentPlans (condition : String) :
    (∃ plans, argumentPlans condition parameters = .ok plans) ↔
      (parameters.map (argumentName (parameters.map shortName))).Nodup := by
  have each : ∀ p ∈ parameters, IsArgumentName (argumentName (parameters.map shortName) p) := by
    intro p mem
    obtain ⟨full, short⟩ := (own.named p mem).isArgumentName
    rw [own.argumentName_eq mem]
    split
    · exact full
    · exact short
  have named : parameters.map (fun p =>
      valueIdentifier? (argumentName (parameters.map shortName) p)) =
      ((parameters.map (argumentName (parameters.map shortName))).map argumentOf).map some := by
    rw [List.map_map, List.map_map]
    exact List.map_congr_left fun p mem => (each p mem).value
  rw [argumentPlans, exists_argumentPlansFrom named]
  simp only [List.not_mem_nil, not_false_eq_true, implies_true, and_true]
  refine ⟨List.Nodup.of_map _, fun nodup => nodup.map_on fun a mem b mem' same => ?_⟩
  obtain ⟨p, own', rfl⟩ := List.mem_map.mp mem
  obtain ⟨q, own'', rfl⟩ := List.mem_map.mp mem'
  exact argumentOf_inj (each p own') (each q own'') same

/-- The parameters supplied when access is checked always have different names of arguments. -/
theorem nodup_argumentNames_of_provided (provided : ∀ p ∈ parameters, p.phase = .provided) :
    (parameters.map (argumentName (parameters.map shortName))).Nodup := by
  have short : ∀ p ∈ parameters, p.name = shortName p ++ providedTail := by
    intro p mem
    obtain ⟨name, phase⟩ := phase_eq_provided.mp (provided p mem)
    rw [shortName_of_tail (.inr rfl) (own.named p mem).snake phase, phase]
  have once : ∀ p ∈ parameters, argumentName (parameters.map shortName) p = shortName p := by
    intro p mem
    rw [own.argumentName_eq mem, if_neg]
    rintro ⟨q, mem', other, same⟩
    exact other (own.eq_of_name mem' mem (by rw [short q mem', short p mem, same]))
  refine List.Nodup.map_on (fun p mem q mem' same => ?_) (List.Nodup.of_map _ own.distinct)
  rw [once p mem, once q mem'] at same
  exact own.eq_of_name mem mem' (by rw [short p mem, short q mem', same])

end DistinctParameters

/-! ## Conditions -/

theorem mem_initNames {c : Condition} {name : String} :
    name ∈ c.initParameters.map (·.name) ↔
      name ∈ c.parameters.map (·.name) ∧ Text.endsWith name providedTail = false := by
  simp only [Condition.initParameters, List.mem_map, List.mem_filter, decide_eq_true_eq,
    phase_eq_init]
  constructor
  · rintro ⟨p, ⟨mem, phase⟩, rfl⟩
    exact ⟨⟨p, mem, rfl⟩, phase⟩
  · rintro ⟨⟨p, mem, rfl⟩, phase⟩
    exact ⟨p, ⟨mem, phase⟩, rfl⟩

/-- Chained names are names of parameters bound when a tuple is written. -/
theorem isChained_initNames_iff {c : Condition} {name : String} :
    IsChained (c.initParameters.map (·.name)) name ↔
      IsChained (c.parameters.map (·.name)) name := by
  constructor
  · rintro ⟨bare, alone, once, twice⟩
    exact ⟨bare, (mem_initNames.mp alone).1, (mem_initNames.mp once).1, (mem_initNames.mp twice).1⟩
  · rintro ⟨bare, alone, once, twice⟩
    exact ⟨bare, mem_initNames.mpr ⟨alone, bare.2⟩,
      mem_initNames.mpr ⟨once, not_provided_of_init _⟩,
      mem_initNames.mpr ⟨twice, not_provided_of_init _⟩⟩

/-- A plan needs a name for the module and a plan of the arguments of each phase. The phases do not
compete: each has a function of its own. -/
theorem exists_conditionPlan_of_iff {c : Condition} :
    (∃ plan, ConditionPlan.of c = .ok plan) ↔
      (∃ moduleName, valueIdentifier? (Naming.canonical c.name) = some moduleName) ∧
        (∃ plans, argumentPlans c.name c.initParameters = .ok plans) ∧
        ∃ plans, argumentPlans c.name c.providedParameters = .ok plans := by
  unfold ConditionPlan.of
  split
  next unnamed => simp [unnamed]
  next moduleName named =>
    simp only [exists_bind_eq_ok, exists_pure_eq_ok, and_true, named]
    exact ⟨fun ⟨_, init, provided⟩ => ⟨⟨_, rfl⟩, ⟨_, init⟩, provided⟩,
      fun ⟨_, ⟨_, init⟩, provided⟩ => ⟨_, init, provided⟩⟩

/-- Bindings are made of a condition alone exactly if it is planned. -/
theorem exists_generate_condition_iff {c : Condition} {version : String}
    {policy : Accessor.Policy} :
    (∃ source, generate ⟨version, [], [c]⟩ policy = .ok source) ↔
      ∃ plan, ConditionPlan.of c = .ok plan := by
  have single : conditionPlans [] [c] = (ConditionPlan.of c).map fun plan => [plan] := by
    cases planned : ConditionPlan.of c <;> simp [conditionPlans, planned, bind, Except.bind] <;> rfl
  simp [generate, Plan.of, typePlans, single, map_eq_ok, bind_eq_ok, pure, Except.pure]

/-- A condition whose parameters have different names, in snake case and free of the keywords of
paths, is planned exactly if its own name makes a module and no name stands among those of its
parameters bare, with the phase and with the phase twice. Then its two functions have an argument
for each parameter, and these differ and are identifiers. The names of the arguments of a check are
never at fault. -/
theorem condition_planned_iff_unchained (c : Condition)
    (named : ∀ p ∈ c.parameters, IsParameterName p.name)
    (distinct : (c.parameters.map (·.name)).Nodup) :
    ((∃ plans, argumentPlans c.name c.initParameters = .ok plans) ↔
      ∀ name, ¬ IsChained (c.parameters.map (·.name)) name) ∧
    (∃ plans, argumentPlans c.name c.providedParameters = .ok plans) ∧
    ((∃ moduleName, valueIdentifier? (Naming.canonical c.name) = some moduleName) →
      (∀ name, ¬ IsChained (c.parameters.map (·.name)) name) →
      ∃ plan, ConditionPlan.of c = .ok plan ∧ ArgumentsPlanned c.initParameters plan.init ∧
        ArgumentsPlanned c.providedParameters plan.provided) ∧
    ∀ version policy, (∃ source, generate ⟨version, [], [c]⟩ policy = .ok source) ↔
      (∃ moduleName, valueIdentifier? (Naming.canonical c.name) = some moduleName) ∧
        ∀ name, ¬ IsChained (c.parameters.map (·.name)) name := by
  have own : DistinctParameters c.parameters := ⟨named, distinct⟩
  have ownInit : DistinctParameters c.initParameters := own.filter _
  have ownProvided : DistinctParameters c.providedParameters := own.filter _
  have init : ∀ p ∈ c.initParameters, p.phase = .init := fun p mem => by
    simpa using List.of_mem_filter mem
  have provided : ∀ p ∈ c.providedParameters, p.phase = .provided := fun p mem => by
    simpa using List.of_mem_filter mem
  have write : (∃ plans, argumentPlans c.name c.initParameters = .ok plans) ↔
      ∀ name, ¬ IsChained (c.parameters.map (·.name)) name := by
    rw [ownInit.exists_argumentPlans, ownInit.nodup_argumentNames_iff init]
    simp only [isChained_initNames_iff]
  have check : ∃ plans, argumentPlans c.name c.providedParameters = .ok plans :=
    (ownProvided.exists_argumentPlans c.name).mpr
      (ownProvided.nodup_argumentNames_of_provided provided)
  have planned := @exists_conditionPlan_of_iff c
  rw [write, and_iff_left check] at planned
  refine ⟨write, check, fun module unchained => ?_, fun version policy => ?_⟩
  · obtain ⟨plan, ok⟩ := planned.mpr ⟨module, unchained⟩
    exact ⟨plan, ok, (ConditionPlan.of_arguments ok).2⟩
  · rw [exists_generate_condition_iff, planned]

/-- An integer parameter of each name. -/
def integers (names : List String) : List Parameter := names.map (⟨·, .int⟩)

/-- A parameter may stand beside one whose short name it has, as `count` does beside `count_init`,
and parameters of both phases may have the same short name. None of these is chained, so the
condition is planned. -/
theorem condition_planned_iff_unchained_pair :
    let c : Condition := ⟨"limit", none,
      integers ["count", "count_init", "type_init", "type_init_init", "count_provided"]⟩
    (∀ p ∈ c.parameters, IsParameterName p.name) ∧ (c.parameters.map (·.name)).Nodup ∧
      (∃ moduleName, valueIdentifier? (Naming.canonical c.name) = some moduleName) ∧
      (∀ name, ¬ IsChained (c.parameters.map (·.name)) name) ∧
      ∃ plan, ConditionPlan.of c = .ok plan ∧ ArgumentsPlanned c.initParameters plan.init ∧
        ArgumentsPlanned c.providedParameters plan.provided := by
  intro c
  have named : ∀ p ∈ c.parameters, IsParameterName p.name := by decide
  have distinct : (c.parameters.map (·.name)).Nodup := by decide
  have module : ∃ moduleName, valueIdentifier? (Naming.canonical c.name) = some moduleName :=
    ⟨"limit", by decide +kernel⟩
  have within : ∀ name ∈ c.parameters.map (·.name),
      ¬ IsChained (c.parameters.map (·.name)) name := by decide
  have unchained : ∀ name, ¬ IsChained (c.parameters.map (·.name)) name :=
    fun name chained => within name chained.alone chained
  exact ⟨named, distinct, module, unchained,
    (condition_planned_iff_unchained c named distinct).2.2.1 module unchained⟩

/-- The second parameter keeps its full name because of the first, and the third is short for it. A
condition without parameters is refused for its own name alone. -/
theorem chained_names_refused :
    let c : Condition := ⟨"limit", none, integers ["count", "count_init", "count_init_init"]⟩
    (∀ p ∈ c.parameters, IsParameterName p.name) ∧ (c.parameters.map (·.name)).Nodup ∧
      valueIdentifier? (Naming.canonical c.name) = some "limit" ∧
      ConditionPlan.of c = .error (.argumentTaken "limit" "count_init_init" "count_init") ∧
      (¬ ∃ source, generate ⟨"1.1", [], [c]⟩ .standard = .ok source) ∧
      ¬ ∃ source, generate ⟨"1.1", [], [⟨"9", none, []⟩]⟩ .standard = .ok source := by
  intro c
  have refused : ConditionPlan.of c =
      .error (.argumentTaken "limit" "count_init_init" "count_init") := by decide +kernel
  have unnamed : valueIdentifier? (Naming.canonical "9") = none := by decide +kernel
  refine ⟨by decide, by decide, by decide +kernel, refused, ?_, ?_⟩
  · rw [exists_generate_condition_iff, refused]
    rintro ⟨_, ⟨⟩⟩
  · rw [exists_generate_condition_iff, exists_conditionPlan_of_iff, unnamed]
    rintro ⟨⟨_, ⟨⟩⟩, -⟩

end Rebac.Bindings
