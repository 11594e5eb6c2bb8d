import Rebac.Bindings.Source
import Rebac.Proofs.Bindings.Identifier
import Rebac.Proofs.Except

/-!
# What a plan promises

A plan exists only when its names make identifiers and differ where they must. Each lemma reads the
success of one step of planning as what the step checked.
-/

namespace Rebac.Bindings

open Schema (Model TypeDefinition Relation)

/-- No name is found to repeat where the names differ from each other and from those that were seen
before. -/
theorem firstRepeat?_eq_none {seen names : List String} :
    firstRepeat? seen names = none ↔ names.Nodup ∧ ∀ n ∈ names, n ∉ seen := by
  induction names generalizing seen with
  | nil => simp [firstRepeat?]
  | cons name rest ih =>
    by_cases known : name ∈ seen
    · simp [firstRepeat?, known]
    · rw [firstRepeat?, if_neg known, ih]
      simp only [List.nodup_cons, List.mem_cons, not_or, forall_eq_or_imp]
      constructor
      · rintro ⟨nodup, fresh⟩
        exact ⟨⟨fun mem => (fresh name mem).1 rfl, nodup⟩, known, fun n mem => (fresh n mem).2⟩
      · rintro ⟨⟨once, nodup⟩, -, fresh⟩
        exact ⟨nodup, fun n mem => ⟨fun same => once (same ▸ mem), fresh n mem⟩⟩

theorem requireDistinct_ok {scope : Scope} {typeName : String} {names : List String} {u : Unit} :
    requireDistinct scope typeName names = .ok u ↔ names.Nodup := by
  have repeats := @firstRepeat?_eq_none [] names
  unfold requireDistinct
  split
  next name repeated =>
    rw [repeated] at repeats
    simpa using repeats
  next fresh => simpa [fresh] using repeats

/-! ## Relations -/

/-- A relation is planned when its name makes the identifier of a field and its Pascal form that of
a variant. It keeps its name. -/
theorem RelationPlan.of_ok {typeName : String} {relation : Relation} {p : RelationPlan} :
    RelationPlan.of typeName relation = .ok p ↔
      p.name = relation.name ∧ valueIdentifier? relation.name = some p.field ∧
        typeIdentifier? (Naming.pascal relation.name) = some p.variant := by
  unfold RelationPlan.of
  split
  next field variant named named' =>
    rw [named, named', Except.ok.injEq, Option.some.injEq, Option.some.injEq]
    constructor
    · rintro rfl
      exact ⟨rfl, rfl, rfl⟩
    · rintro ⟨name, rfl, rfl⟩
      rw [← name]
  next unnamed =>
    constructor
    · intro h
      cases h
    · rintro ⟨-, field, variant⟩
      exact absurd variant (unnamed _ _ field)

/-- The plans are those of the relations, in order. -/
def Planned (typeName : String) (relations : List Relation) (plans : List RelationPlan) : Prop :=
  relations.map (RelationPlan.of typeName) = plans.map .ok

/-- Relations are planned one by one, in their order. -/
theorem relationPlans_ok {typeName : String} {relations : List Relation}
    {plans : List RelationPlan} :
    relationPlans typeName relations = .ok plans ↔ Planned typeName relations plans := by
  induction relations generalizing plans with
  | nil => simp [relationPlans, Planned, eq_comm]
  | cons relation rest ih =>
    simp only [relationPlans, bind_eq_ok, pure_eq_ok, ih, Planned, List.map_cons]
    constructor
    · rintro ⟨plan, here, others, there, rfl⟩
      rw [here, there, List.map_cons]
    · intro same
      cases plans with
      | nil => cases same
      | cons plan others =>
        obtain ⟨here, there⟩ := List.cons.inj same
        exact ⟨plan, here, others, there, rfl⟩

namespace Planned

variable {typeName : String} {relations : List Relation} {plans : List RelationPlan}

/-- The plans have the names of their relations, in order. -/
theorem names (planned : Planned typeName relations plans) :
    plans.map (·.name) = relations.map (·.name) := by
  induction relations generalizing plans with
  | nil => rw [List.map_eq_nil_iff.mp planned.symm]; rfl
  | cons relation rest ih =>
    cases plans with
    | nil => cases planned
    | cons plan others =>
      obtain ⟨here, there⟩ := List.cons.inj planned
      rw [List.map_cons, List.map_cons, (RelationPlan.of_ok.mp here).1, ih there]

theorem plan_of_mem (planned : Planned typeName relations plans) {relation : Relation}
    (mem : relation ∈ relations) : ∃ p ∈ plans, RelationPlan.of typeName relation = .ok p := by
  have image : RelationPlan.of typeName relation ∈ plans.map .ok :=
    planned ▸ List.mem_map_of_mem mem
  obtain ⟨p, mem, ok⟩ := List.mem_map.mp image
  exact ⟨p, mem, ok.symm⟩

theorem relation_of_mem (planned : Planned typeName relations plans) {p : RelationPlan}
    (mem : p ∈ plans) : ∃ relation ∈ relations, RelationPlan.of typeName relation = .ok p := by
  have image : .ok p ∈ relations.map (RelationPlan.of typeName) :=
    planned ▸ List.mem_map_of_mem mem
  exact List.mem_map.mp image

end Planned

/-! ## Types -/

/-- What the plan of a resource with these direct and computed relations promises: the plans are
those of the relations, and the names of each scope differ. -/
structure ResourcePlanned (t : TypeDefinition) (direct computed : List RelationPlan) : Prop where
  directPlanned : Planned t.name t.direct direct
  computedPlanned : Planned t.name t.computed computed
  unreserved : computed ≠ [] → ∀ r ∈ direct, r.name ≠ performName
  variants : (direct.map (·.variant) ++ (Perform.of computed).also "Perform").Nodup
  fields : (direct.map (·.field) ++ (Perform.of computed).also performName).Nodup
  groupVariants : ((Perform.of computed).members.map (·.variant)).Nodup
  groupFields : ((Perform.of computed).members.map (·.field)).Nodup

/-- Computed relations are absent, a scalar or a group by how many there are. -/
theorem Perform.of_cases (computed : List RelationPlan) :
    (computed = [] ∧ Perform.of computed = .absent) ∨
      (∃ r, computed = [r] ∧ Perform.of computed = .scalar r) ∨
      (1 < computed.length ∧ Perform.of computed = .group computed) := by
  match computed with
  | [] => exact .inl ⟨rfl, rfl⟩
  | [r] => exact .inr (.inl ⟨r, rfl, rfl⟩)
  | r :: r' :: rest => exact .inr (.inr ⟨by simp, rfl⟩)

theorem Perform.of_eq_absent {computed : List RelationPlan} :
    Perform.of computed = .absent ↔ computed = [] := by
  rcases Perform.of_cases computed with ⟨rfl, kind⟩ | ⟨r, rfl, kind⟩ | ⟨several, kind⟩
  · simp [kind]
  · simp [kind]
  · have some : computed ≠ [] := List.ne_nil_of_length_pos (by omega)
    simp [kind, some]

/-- A group holds all the computed relations. -/
theorem Perform.of_eq_group {computed group : List RelationPlan}
    (kind : Perform.of computed = .group group) : group = computed := by
  rcases Perform.of_cases computed with ⟨-, other⟩ | ⟨r, -, other⟩ | ⟨-, all⟩
  · rw [kind] at other
    cases other
  · rw [kind] at other
    cases other
  · rw [kind] at all
    exact Perform.group.inj all

/-- A type with relations has the form of a resource, of its direct relations and of its computed
ones. Both were planned, and their identifiers compared. -/
theorem Form.ofRelations_ok {t : TypeDefinition} {form : Form}
    (ok : Form.ofRelations t = .ok form) :
    ∃ direct computed, form = .resource direct (Perform.of computed) ∧
      ResourcePlanned t direct computed := by
  simp only [Form.ofRelations, bind_eq_ok, relationPlans_ok] at ok
  obtain ⟨direct, plannedDirect, computed, plannedComputed, ok⟩ := ok
  split at ok
  · cases ok
  next unreserved =>
    simp only [requireDistinctNames, bind_eq_ok, requireDistinct_ok, pure_eq_ok] at ok
    obtain ⟨_, ⟨_, variants, _, fields, _, groupVariants, groupFields⟩, rfl⟩ := ok
    refine ⟨direct, computed, rfl, plannedDirect, plannedComputed, fun some r mem => ?_, variants,
      fields, groupVariants, groupFields⟩
    intro reserved
    refine unreserved ⟨mt Perform.of_eq_absent.mp some, ?_⟩
    exact List.any_eq_true.mpr ⟨r, mem, decide_eq_true reserved⟩

/-- What the plan of a type promises: its name is the canonical form of its Pascal form, which makes
the identifier, and it is a resource exactly when it has relations. -/
structure TypePlanned (p : TypePlan) : Prop where
  entityName : p.entityName = Naming.pascal p.definition.name
  canonical : Naming.canonical (Naming.pascal p.definition.name) = p.definition.name
  identifier : typeIdentifier? (Naming.pascal p.definition.name) = some p.identifier
  form : (p.definition.hasRelations = false ∧ p.form = .marker) ∨
    (p.definition.hasRelations = true ∧ ∃ direct computed,
      p.form = .resource direct (Perform.of computed) ∧
        ResourcePlanned p.definition direct computed)

/-- A type has an identifier when its name comes back from its Pascal form, and that form makes one.
-/
theorem canonicalIdentifier?_eq_some {typeName identifier : String} :
    canonicalIdentifier? typeName = some identifier ↔
      Naming.canonical (Naming.pascal typeName) = typeName ∧
        typeIdentifier? (Naming.pascal typeName) = some identifier := by
  simp [canonicalIdentifier?]

/-- A type is planned as what its definition says, and only if each check of its names succeeds. -/
theorem TypePlan.of_ok {t : TypeDefinition} {p : TypePlan} (ok : TypePlan.of t = .ok p) :
    p.definition = t ∧ TypePlanned p := by
  unfold TypePlan.of at ok
  split at ok
  · cases ok
  next identifier named =>
    obtain ⟨canonical, identifier⟩ := canonicalIdentifier?_eq_some.mp named
    cases some : t.hasRelations with
    | false =>
      rw [some, if_neg Bool.false_ne_true] at ok
      cases ok
      exact ⟨rfl, rfl, canonical, identifier, .inl ⟨some, rfl⟩⟩
    | true =>
      rw [some, if_pos rfl] at ok
      simp only [bind_eq_ok, pure_eq_ok] at ok
      obtain ⟨form, made, rfl⟩ := ok
      exact ⟨rfl, rfl, canonical, identifier, .inr ⟨some, Form.ofRelations_ok made⟩⟩

/-- The plans of types are theirs in order, and no declared item comes twice. -/
theorem typePlans_ok {items : List String} {types : List TypeDefinition} {plans : List TypePlan}
    (ok : typePlans items types = .ok plans) :
    plans.map (·.definition) = types ∧ (∀ p ∈ plans, TypePlanned p) ∧
      (plans.flatMap (·.itemNames)).Nodup ∧ ∀ n ∈ plans.flatMap (·.itemNames), n ∉ items := by
  induction types generalizing items plans with
  | nil =>
    cases ok
    simp
  | cons t rest ih =>
    simp only [typePlans, bind_eq_ok] at ok
    obtain ⟨plan, here, ok⟩ := ok
    obtain ⟨rfl, planned⟩ := TypePlan.of_ok here
    split at ok
    · cases ok
    next distinct =>
      simp only [bind_eq_ok, pure_eq_ok] at ok
      obtain ⟨others, there, rfl⟩ := ok
      obtain ⟨nodup, fresh⟩ := firstRepeat?_eq_none.mp distinct
      obtain ⟨definitions, eachPlanned, nodup', fresh'⟩ := ih there
      refine ⟨by rw [List.map_cons, definitions], ?_, ?_, ?_⟩
      · exact List.forall_mem_cons.mpr ⟨planned, eachPlanned⟩
      · rw [List.flatMap_cons, List.nodup_append]
        refine ⟨nodup, nodup', fun a own b other same => ?_⟩
        exact fresh' b other (List.mem_append_right _ (same ▸ own))
      · rw [List.flatMap_cons]
        intro n mem
        rcases List.mem_append.mp mem with own | other
        · exact fresh n own
        · exact fun known => fresh' n other (List.mem_append_left _ known)

theorem Plan.of_conditions {model : Model} {plan : Plan} (planned : Plan.of model = .ok plan) :
    conditionPlans [] model.conditions = .ok plan.conditions := by
  simp only [Plan.of, bind_eq_ok, pure_eq_ok] at planned
  obtain ⟨_, -, conditions, made, rfl⟩ := planned
  exact made

/-- A schema with a plan has bindings under every policy. Nothing can fail once the plan is made. -/
theorem generate_of_plan {model : Model} {plan : Plan} (planned : Plan.of model = .ok plan)
    (policy : Accessor.Policy) : generate model policy = .ok (plan.source policy) :=
  map_eq_ok.mpr ⟨plan, planned, rfl⟩

/-- The types of a plan are those of the schema, each planned by itself, and no two of their items
have one name. -/
theorem Plan.of_types {model : Model} {plan : Plan} (planned : Plan.of model = .ok plan) :
    plan.types.map (·.definition) = model.types ∧ (∀ p ∈ plan.types, TypePlanned p) ∧
      (plan.types.flatMap (·.itemNames)).Nodup := by
  simp only [Plan.of, bind_eq_ok, pure_eq_ok] at planned
  obtain ⟨types, typesPlanned, conditions, -, rfl⟩ := planned
  obtain ⟨definitions, each, nodup, -⟩ := typePlans_ok typesPlanned
  exact ⟨definitions, each, nodup⟩

/-- A text of bindings is that of a plan, whose types are those of the schema in order. -/
theorem generate_ok {model : Model} {policy : Accessor.Policy} {source : String}
    (made : generate model policy = .ok source) :
    ∃ plan, Plan.of model = .ok plan ∧ plan.source policy = source ∧
      plan.types.map (·.definition) = model.types ∧ (∀ p ∈ plan.types, TypePlanned p) ∧
      (plan.types.flatMap (·.itemNames)).Nodup := by
  obtain ⟨plan, planned, text⟩ := map_eq_ok.mp made
  exact ⟨plan, planned, text, Plan.of_types planned⟩

/-- What is found in the plan of a schema by computing it is so of a plan that there is. -/
theorem exists_plan {α : Type} {model : Model} {find : Plan → α} {found : α}
    (computed : (Plan.of model).toOption.map find = some found) :
    ∃ plan, Plan.of model = .ok plan ∧ find plan = found := by
  obtain ⟨plan, planned, own⟩ := Option.map_eq_some_iff.mp computed
  exact ⟨plan, toOption_eq_some planned, own⟩

/-- The same of a schema that may fail to load. -/
theorem exists_loaded_plan {ε α : Type} {loading : Except ε Model} {find : Plan → α} {found : α}
    (computed : (loading.toOption.bind fun model => (Plan.of model).toOption.map find) =
      some found) :
    ∃ model plan, loading = .ok model ∧ Plan.of model = .ok plan ∧ find plan = found := by
  obtain ⟨model, loaded, planned⟩ := Option.bind_eq_some_iff.mp computed
  obtain ⟨plan, planOf, own⟩ := exists_plan planned
  exact ⟨model, plan, toOption_eq_some loaded, planOf, own⟩

/-- The parts of a type are in the text. -/
theorem Plan.mem_parts (policy : Accessor.Policy) {plan : Plan} {p : TypePlan}
    (mem : p ∈ plan.types) {part : List Piece} (own : part ∈ p.parts) :
    part ∈ plan.parts policy := by
  have inTypes : part ∈ plan.types.flatMap fun t => t.parts ++ t.accessorParts policy :=
    List.mem_flatMap.mpr ⟨p, mem, List.mem_append_left _ own⟩
  exact List.mem_append_left _ (List.mem_cons_of_mem _ inTypes)

end Rebac.Bindings
