import Rebac.Bindings.Source
import Rebac.Command.Arguments
import Rebac.Proofs.Except
import Rebac.Proofs.Naming.Idempotence
import Rebac.Proofs.Text.Affix

/-!
# Policies built by calls

A policy starts bare or with the default ends of names, and calls add further ends and types to it.
What it makes an accessor depends on what was added in all, in canonical form. So neither the order
of the calls nor a repetition has a bearing on it, and none on the bindings.
-/

namespace Rebac.Accessor

open Schema (Model TypeDefinition)

/-- A call that adds an end of names, or a type. -/
inductive Call where
  | withTail (tail : String)
  | withType (typeName : String)
deriving DecidableEq, Repr

namespace Call

/-- The policy after a call. -/
def apply (p : Policy) : Call → Policy
  | withTail tail => p.withTail tail
  | withType typeName => p.withType typeName

/-- The call with its name in canonical form. -/
def canonical : Call → Call
  | withTail tail => withTail (Naming.canonical tail)
  | withType typeName => withType (Naming.canonical typeName)

/-- Whether what the call adds makes a type of this canonical name an accessor. -/
def Fits (name : String) : Call → Prop
  | withTail tail => ∃ front, name = front ++ tail
  | withType typeName => name = typeName

end Call

theorem mem_insertName {name other : String} {names : List String} :
    other ∈ insertName name names ↔ other = name ∨ other ∈ names := by
  induction names with
  | nil => simp [insertName]
  | cons n rest ih =>
    rw [insertName]
    split
    · exact List.mem_cons
    · split
      next same => simp [same]
      next => rw [List.mem_cons, ih, List.mem_cons, or_left_comm]

/-! ## What a policy holds -/

namespace Policy

/-- Whether a policy holds what a call of this form adds. -/
def Holds (p : Policy) : Call → Prop
  | .withTail tail => tail ∈ p.tails
  | .withType typeName => typeName ∈ p.types

/-- No end of names is empty, and none comes twice. -/
structure Tidy (p : Policy) : Prop where
  nonempty : "" ∉ p.tails
  nodup : p.tails.Nodup

/-- The policy after calls in order. -/
def after (p : Policy) (calls : List Call) : Policy := calls.foldl Call.apply p

variable {p q : Policy}

theorem after_append (calls more : List Call) :
    p.after (calls ++ more) = (p.after calls).after more :=
  List.foldl_append

/-- Adding ends of names and then types is to call for each. -/
theorem withAll_eq_after (tails types : List String) :
    p.withAll tails types = p.after (tails.map .withTail ++ types.map .withType) := by
  simp only [withAll, after, List.foldl_append, List.foldl_map, Call.apply]

/-- Each call keeps a policy tidy. -/
theorem Tidy.apply (tidy : p.Tidy) (call : Call) : (call.apply p).Tidy := by
  cases call with
  | withType => exact ⟨tidy.nonempty, tidy.nodup⟩
  | withTail tail =>
    simp only [Call.apply, withTail]
    split
    next => exact tidy
    next fresh =>
      obtain ⟨nonempty, fresh⟩ := not_or.mp fresh
      constructor
      · simp [tidy.nonempty, Ne.symm nonempty]
      · rw [List.nodup_append]
        refine ⟨tidy.nodup, List.pairwise_singleton _ _, fun other own added mem same => fresh ?_⟩
        rwa [← List.mem_singleton.mp mem, ← same]

/-- A call adds what it names in canonical form, and nothing if that is an empty end. -/
theorem holds_apply (call c : Call) :
    (call.apply p).Holds c ↔ p.Holds c ∨ c ≠ .withTail "" ∧ c = call.canonical := by
  cases call with
  | withType added =>
    cases c <;> simp [Call.apply, withType, Holds, Call.canonical, mem_insertName, or_comm]
  | withTail added =>
    simp only [Call.apply, withTail, Call.canonical]
    split
    next known =>
      refine ⟨.inl, fun held => held.elim id ?_⟩
      rintro ⟨some, rfl⟩
      exact known.resolve_left fun empty => some (congrArg Call.withTail empty)
    next fresh =>
      cases c with
      | withType => simp [Holds]
      | withTail tail =>
        simp only [Holds, List.mem_append, List.mem_singleton, ne_eq, Call.withTail.injEq]
        exact or_congr_right ⟨fun same => ⟨same ▸ (not_or.mp fresh).1, same⟩, And.right⟩

theorem Tidy.after (tidy : p.Tidy) (calls : List Call) : (p.after calls).Tidy := by
  induction calls generalizing p with
  | nil => exact tidy
  | cons call rest ih => exact ih (tidy.apply call)

/-- After some calls a policy holds what it held and what they name. Neither their order nor their
number matters. -/
theorem holds_after (calls : List Call) (c : Call) :
    (p.after calls).Holds c ↔ p.Holds c ∨ c ≠ .withTail "" ∧ c ∈ calls.map Call.canonical := by
  induction calls generalizing p with
  | nil => simp [after]
  | cons call rest ih =>
    have step : p.after (call :: rest) = (call.apply p).after rest := rfl
    rw [step, ih, holds_apply, List.map_cons, List.mem_cons, or_assoc, and_or_left]

/-! ## What a policy makes an accessor -/

/-- A type is an accessor if it has no relations, or if something that the policy holds fits its
name. -/
theorem isAccessor_iff (p : Policy) (t : TypeDefinition) :
    p.isAccessor t = true ↔
      t.hasRelations = false ∨ ∃ c, p.Holds c ∧ c.Fits (Naming.canonical t.name) := by
  have some_call : (∃ c, p.Holds c ∧ c.Fits (Naming.canonical t.name)) ↔
      Naming.canonical t.name ∈ p.types ∨
        ∃ tail ∈ p.tails, Text.endsWith (Naming.canonical t.name) tail = true := by
    constructor
    · rintro ⟨tail | typeName, holds, fits⟩
      · exact .inr ⟨tail, holds, Text.endsWith_iff.mpr fits⟩
      · exact .inl (fits ▸ holds)
    · rintro (own | ⟨tail, own, ends⟩)
      · exact ⟨.withType _, own, rfl⟩
      · exact ⟨.withTail tail, own, Text.endsWith_iff.mp ends⟩
  rw [some_call]
  simp [isAccessor]

/-- A policy that holds more makes no fewer types accessors. -/
theorem isAccessor_mono (more : ∀ c, p.Holds c → q.Holds c) {t : TypeDefinition}
    (accessor : p.isAccessor t = true) : q.isAccessor t = true := by
  rw [isAccessor_iff] at accessor ⊢
  exact accessor.imp_right fun ⟨c, holds, fits⟩ => ⟨c, more c holds, fits⟩

theorem isAccessor_congr (same : ∀ c, p.Holds c ↔ q.Holds c) (t : TypeDefinition) :
    p.isAccessor t = q.isAccessor t :=
  Bool.eq_iff_iff.mpr
    ⟨isAccessor_mono fun c => (same c).mp, isAccessor_mono fun c => (same c).mpr⟩

end Policy

/-- Bindings read nothing of a policy but which types are accessors. -/
theorem generate_congr {p q : Policy} (same : ∀ t, p.isAccessor t = q.isAccessor t)
    (model : Model) : Bindings.generate model p = Bindings.generate model q := by
  have parts (plan : Bindings.Plan) : plan.parts p = plan.parts q := by
    simp only [Bindings.Plan.parts, Bindings.TypePlan.accessorParts, same]
  have source : Bindings.Plan.source p = Bindings.Plan.source q := by
    funext plan
    rw [Bindings.Plan.source, Bindings.Plan.source, parts]
  rw [Bindings.generate, Bindings.generate, source]

/-! ## Policies built by calls -/

/-- The policies that calls start from. -/
inductive Start where
  | bare
  | standard
deriving DecidableEq, Repr

namespace Start

/-- The policy itself. -/
def policy : Start → Policy
  | bare => .none
  | standard => .standard

/-- The ends of names that it has. -/
def tails : Start → List String
  | bare => []
  | standard => defaultTails

/-- The default ends of names are in canonical form. -/
theorem canonical_of_mem_tails {start : Start} {tail : String} (mem : tail ∈ start.tails) :
    Naming.canonical tail = tail := by
  have snake : (defaultTails.all fun tail => tail.toList.all Naming.isSnake) = true := by decide
  cases start with
  | bare => cases mem
  | standard =>
    exact Naming.canonical_of_isSnake (List.all_eq_true.mp (List.all_eq_true.mp snake tail mem))

theorem tidy_policy (start : Start) : start.policy.Tidy := by
  cases start <;> exact ⟨by decide, by decide⟩

theorem holds_policy {start : Start} {c : Call} :
    start.policy.Holds c ↔ ∃ tail ∈ start.tails, c = .withTail tail := by
  cases start <;> cases c <;>
    simp [policy, tails, Policy.Holds, Policy.none, Policy.standard]

end Start

/-- The policy of a command line is one that calls lead to. -/
theorem exists_calls_of_read {arguments : List String} {fallback : Option String}
    {a : Command.Arguments} (read : Command.Arguments.read arguments fallback = .ok a) :
    ∃ (start : Start) (calls : List Call), a.policy = start.policy.after calls := by
  obtain ⟨d, -, rest⟩ := bind_eq_ok.mp read
  obtain ⟨path, -, result⟩ := bind_eq_ok.mp rest
  rw [← pure_eq_ok.mp result]
  simp only [Policy.withAll_eq_after]
  split
  · exact ⟨.bare, _, rfl⟩
  · exact ⟨.standard, _, rfl⟩

/-- Whether calls make types of a name accessors: the name has the canonical form of a type that was
added, or ends with that of an end of names, which is not empty, that was added or there from the
start. -/
def Named (start : Start) (calls : List Call) (name : String) : Prop :=
  (∃ typeName, .withType typeName ∈ calls ∧
    Naming.canonical name = Naming.canonical typeName) ∨
  ∃ tail, tail ≠ "" ∧ (tail ∈ start.tails ∨ .withTail tail ∈ calls) ∧
    ∃ front, Naming.canonical name = front ++ Naming.canonical tail

/-- What fits a name after the calls, told by the calls themselves. -/
theorem exists_fits_iff_named {start : Start} {calls : List Call} {name : String} :
    (∃ c, (start.policy.after calls).Holds c ∧ c.Fits (Naming.canonical name)) ↔
      Named start calls name := by
  simp only [Policy.holds_after, Start.holds_policy, List.mem_map]
  constructor
  · rintro ⟨c, ⟨tail, own, rfl⟩ | ⟨some, call, added, rfl⟩, fits⟩
    · have nonempty : tail ≠ "" := by
        rintro rfl
        cases start <;> exact absurd own (by decide)
      refine .inr ⟨tail, nonempty, .inl own, ?_⟩
      rwa [Start.canonical_of_mem_tails own]
    · cases call with
      | withType typeName => exact .inl ⟨typeName, added, fits⟩
      | withTail tail =>
        have nonempty : tail ≠ "" := by
          rintro rfl
          exact some rfl
        exact .inr ⟨tail, nonempty, .inr added, fits⟩
  · rintro (⟨typeName, added, same⟩ | ⟨tail, nonempty, own | added, ends⟩)
    · exact ⟨.withType _, .inr ⟨nofun, _, added, rfl⟩, same⟩
    · rw [Start.canonical_of_mem_tails own] at ends
      exact ⟨.withTail tail, .inl ⟨tail, own, rfl⟩, ends⟩
    · have some : Call.withTail (Naming.canonical tail) ≠ .withTail "" := by
        rw [ne_eq, Call.withTail.injEq, Naming.canonical_eq_empty_iff]
        exact nonempty
      exact ⟨.withTail _, .inr ⟨some, _, added, rfl⟩, ends⟩

/-- The ends of names that calls leave are not empty and do not repeat. A type is an accessor when
it has no relations or its name is one that the calls name. Calls that add the same in canonical
form, in any order and any number of times, where an empty end of names adds nothing, make the same
types accessors and lead to the same bindings. Further calls leave every accessor one. -/
theorem accessors_of_calls (start : Start) (calls : List Call) :
    (start.policy.after calls).Tidy ∧
      (∀ t, (start.policy.after calls).isAccessor t = true ↔
        t.hasRelations = false ∨ Named start calls t.name) ∧
      (∀ others, (∀ c, c ≠ .withTail "" →
          (c ∈ calls.map Call.canonical ↔ c ∈ others.map Call.canonical)) →
        (∀ t, (start.policy.after calls).isAccessor t =
          (start.policy.after others).isAccessor t) ∧
        ∀ model, Bindings.generate model (start.policy.after calls) =
          Bindings.generate model (start.policy.after others)) ∧
      ∀ t, (start.policy.after calls).isAccessor t = true → ∀ more,
        (start.policy.after (calls ++ more)).isAccessor t = true := by
  refine ⟨start.tidy_policy.after calls, ?classified, ?sameContent, ?further⟩
  case classified =>
    intro t
    rw [Policy.isAccessor_iff, exists_fits_iff_named]
  case sameContent =>
    intro others same
    have holds (c : Call) :
        (start.policy.after calls).Holds c ↔ (start.policy.after others).Holds c := by
      rw [Policy.holds_after, Policy.holds_after, and_congr_right (same c)]
    have accessors := Policy.isAccessor_congr holds
    exact ⟨accessors, generate_congr accessors⟩
  case further =>
    intro t accessor more
    rw [Policy.after_append]
    exact Policy.isAccessor_mono (fun c holds => (Policy.holds_after more c).mpr (.inl holds))
      accessor

/-- An end of names that is added twice is there once. -/
example :
    Start.bare.policy.after
      [.withType "CrmCompany", .withTail "account", .withTail "Account"] =
        ⟨["account"], ["crm_company"]⟩ := by
  decide +kernel

end Rebac.Accessor
