import Mathlib.Data.List.Nodup
import Rebac.Bindings.ConditionPlan
import Rebac.Proofs.Except

/-!
# What the plan of a condition promises

A condition is planned only when its name makes a module and its parameters make arguments. No
module comes twice, and no argument of a function does. An argument is made from the name of its
parameter, so no name comes twice in a phase either.
-/

namespace Rebac.Bindings

open Schema (Condition Parameter)

/-- An identifier that a plan gives to a value. -/
def IsValue (identifier : String) : Prop := ∃ name, valueIdentifier? name = some identifier

/-- The names of a scope make identifiers of values, which differ. -/
structure DistinctValues (identifiers : List String) : Prop where
  values : ∀ i ∈ identifiers, IsValue i
  distinct : identifiers.Nodup

theorem DistinctValues.of_mem {α : Type} {identifier : α → String} {xs : List α}
    (distinct : DistinctValues (xs.map identifier)) : ∀ x ∈ xs, IsValue (identifier x) :=
  fun _ mem => distinct.values _ (List.mem_map_of_mem mem)

/-- An item in front that differs from all that are taken, beside items that differ from it too. -/
theorem fresh_cons {α β : Type} {f : α → β} {x : α} {xs : List α} {taken : List β}
    (fresh : f x ∉ taken) (distinct : (xs.map f).Nodup) (unseen : ∀ y ∈ xs, f y ∉ f x :: taken) :
    ((x :: xs).map f).Nodup ∧ ∀ y ∈ x :: xs, f y ∉ taken := by
  constructor
  · rw [List.map_cons, List.nodup_cons]
    refine ⟨fun again => ?_, distinct⟩
    obtain ⟨y, mem, same⟩ := List.mem_map.mp again
    exact unseen y mem (same ▸ List.mem_cons_self)
  · refine List.forall_mem_cons.mpr ⟨fresh, fun y mem known => ?_⟩
    exact unseen y mem (List.mem_cons_of_mem _ known)

theorem argumentPlansFrom_ok {condition : String} {shortNames taken : List String}
    {parameters : List Parameter} {plans : List ArgumentPlan}
    (ok : argumentPlansFrom condition shortNames taken parameters = .ok plans) :
    DistinctValues (plans.map (·.argument)) ∧ ∀ a ∈ plans, a.argument ∉ taken := by
  induction parameters generalizing taken plans with
  | nil =>
    cases ok
    exact ⟨⟨by simp, List.nodup_nil⟩, by simp⟩
  | cons p rest ih =>
    rw [argumentPlansFrom] at ok
    split at ok
    · cases ok
    next argument named =>
      split at ok
      · cases ok
      next fresh =>
        simp only [bind_eq_ok, pure_eq_ok] at ok
        obtain ⟨others, later, rfl⟩ := ok
        obtain ⟨⟨values, distinct⟩, unseen⟩ := ih later
        obtain ⟨distinct, unseen⟩ :=
          fresh_cons (f := ArgumentPlan.argument) (x := ⟨p.name, argument, p.kind⟩) fresh distinct
            unseen
        exact ⟨⟨List.forall_mem_cons.mpr ⟨⟨_, named⟩, values⟩, distinct⟩, unseen⟩

/-- The parameter that an argument is planned for. -/
def ArgumentPlan.parameter (a : ArgumentPlan) : Parameter := ⟨a.key, a.kind⟩

/-- There is an argument for each parameter, in order, with the identifier of its name. -/
theorem argumentPlansFrom_planned {condition : String} {shortNames taken : List String}
    {parameters : List Parameter} {plans : List ArgumentPlan}
    (ok : argumentPlansFrom condition shortNames taken parameters = .ok plans) :
    plans.map (·.parameter) = parameters ∧
      ∀ a ∈ plans, valueIdentifier? (argumentName shortNames a.parameter) = some a.argument := by
  induction parameters generalizing taken plans with
  | nil =>
    cases ok
    exact ⟨rfl, by simp⟩
  | cons p rest ih =>
    rw [argumentPlansFrom] at ok
    split at ok
    · cases ok
    next argument named =>
      split at ok
      · cases ok
      · simp only [bind_eq_ok, pure_eq_ok] at ok
        obtain ⟨others, later, rfl⟩ := ok
        obtain ⟨parameters, each⟩ := ih later
        exact ⟨by rw [List.map_cons, parameters]; rfl, List.forall_mem_cons.mpr ⟨named, each⟩⟩

/-- What the arguments for the parameters of a phase promise: one for each, in order, and neither an
argument nor a name twice. -/
structure ArgumentsPlanned (parameters : List Parameter) (plans : List ArgumentPlan) : Prop where
  parameters : plans.map (·.parameter) = parameters
  arguments : DistinctValues (plans.map (·.argument))
  keys : (plans.map (·.key)).Nodup

theorem argumentPlans_ok {condition : String} {parameters : List Parameter}
    {plans : List ArgumentPlan} (ok : argumentPlans condition parameters = .ok plans) :
    ArgumentsPlanned parameters plans := by
  obtain ⟨planned, named⟩ := argumentPlansFrom_planned ok
  obtain ⟨arguments, -⟩ := argumentPlansFrom_ok ok
  refine ⟨planned, arguments, ?_⟩
  -- the identifier hangs on the name alone, so a name that came twice would make it twice
  let identifier? (name : String) : Option String :=
    valueIdentifier? (argumentName (parameters.map shortName) ⟨name, .string⟩)
  have same : (plans.map (·.key)).map identifier? = (plans.map (·.argument)).map some := by
    rw [List.map_map, List.map_map]
    exact List.map_congr_left named
  refine List.Nodup.of_map identifier? ?_
  rw [same]
  exact arguments.distinct.map fun _ _ => Option.some.inj

/-- What the plan of a condition promises: a module named after it, and the arguments of its two
functions. -/
structure ConditionPlanned (p : ConditionPlan) : Prop where
  named : valueIdentifier? (Naming.canonical p.condition.name) = some p.moduleName
  init : DistinctValues (p.init.map (·.argument))
  provided : DistinctValues (p.provided.map (·.argument))

theorem ConditionPlanned.module {p : ConditionPlan} (planned : ConditionPlanned p) :
    IsValue p.moduleName := ⟨_, planned.named⟩

theorem ConditionPlan.of_ok {c : Condition} {p : ConditionPlan} (ok : ConditionPlan.of c = .ok p) :
    ConditionPlanned p := by
  unfold ConditionPlan.of at ok
  split at ok
  · cases ok
  next moduleName named =>
    simp only [bind_eq_ok, pure_eq_ok] at ok
    obtain ⟨init, atWrite, provided, atCheck, rfl⟩ := ok
    exact ⟨named, (argumentPlansFrom_ok atWrite).1, (argumentPlansFrom_ok atCheck).1⟩

/-- The plan of a condition is for it, and has the arguments for its parameters of each phase. -/
theorem ConditionPlan.of_arguments {c : Condition} {p : ConditionPlan}
    (ok : ConditionPlan.of c = .ok p) :
    p.condition = c ∧ ArgumentsPlanned c.initParameters p.init ∧
      ArgumentsPlanned c.providedParameters p.provided := by
  unfold ConditionPlan.of at ok
  split at ok
  · cases ok
  · simp only [bind_eq_ok, pure_eq_ok] at ok
    obtain ⟨init, atWrite, provided, atCheck, rfl⟩ := ok
    exact ⟨rfl, argumentPlans_ok atWrite, argumentPlans_ok atCheck⟩

/-- Each condition has a plan. -/
theorem exists_conditionPlan {taken : List String} {conditions : List Condition}
    {plans : List ConditionPlan} (ok : conditionPlans taken conditions = .ok plans)
    {c : Condition} (mem : c ∈ conditions) : ∃ p ∈ plans, ConditionPlan.of c = .ok p := by
  induction conditions generalizing taken plans with
  | nil => cases mem
  | cons first rest ih =>
    simp only [conditionPlans, bind_eq_ok] at ok
    obtain ⟨plan, here, ok⟩ := ok
    split at ok
    · cases ok
    · simp only [bind_eq_ok, pure_eq_ok] at ok
      obtain ⟨others, later, rfl⟩ := ok
      rcases List.mem_cons.mp mem with rfl | mem
      · exact ⟨plan, List.mem_cons_self, here⟩
      · obtain ⟨p, own, planned⟩ := ih later mem
        exact ⟨p, List.mem_cons_of_mem _ own, planned⟩

/-- The plans of conditions promise what each promises, and no module comes twice. -/
theorem conditionPlans_ok {taken : List String} {conditions : List Condition}
    {plans : List ConditionPlan} (ok : conditionPlans taken conditions = .ok plans) :
    (∀ p ∈ plans, ConditionPlanned p) ∧ (plans.map (·.moduleName)).Nodup ∧
      ∀ p ∈ plans, p.moduleName ∉ taken := by
  induction conditions generalizing taken plans with
  | nil =>
    cases ok
    simp
  | cons c rest ih =>
    simp only [conditionPlans, bind_eq_ok] at ok
    obtain ⟨plan, here, ok⟩ := ok
    split at ok
    · cases ok
    next fresh =>
      simp only [bind_eq_ok, pure_eq_ok] at ok
      obtain ⟨others, later, rfl⟩ := ok
      obtain ⟨planned, distinct, unseen⟩ := ih later
      exact ⟨List.forall_mem_cons.mpr ⟨ConditionPlan.of_ok here, planned⟩,
        fresh_cons fresh distinct unseen⟩

end Rebac.Bindings
