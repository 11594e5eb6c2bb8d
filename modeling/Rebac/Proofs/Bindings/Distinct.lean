import Mathlib.Data.List.Perm.Basic
import Rebac.Proofs.Bindings.Scope

/-!
# Names declared once

No scope of bindings declares a name twice, unless a version of several lines does. Items, fields,
variants, modules and arguments were compared when they were planned. The module of conditions
differs from every type because it is in lower case, and the constants of a table differ because the
relations of a loaded schema do.
-/

namespace Rebac.Bindings

open Accessor (Policy)
open Schema (Model TypeDefinition WellNamed)

/-! ## Items -/

/-- No type has the identifier of the module of conditions, which is no Pascal form. -/
theorem TypePlanned.identifier_ne_conditions {p : TypePlan} (planned : TypePlanned p) :
    p.identifier ≠ "conditions" := by
  have identifier := planned.identifier
  unfold typeIdentifier? at identifier
  split at identifier
  next keyword =>
    have escaped : ∀ k ∈ pathKeywords, k ++ "_" ≠ "conditions" := by decide
    rw [← Option.some.inj identifier]
    exact escaped _ keyword
  next =>
    split at identifier
    next =>
      intro same
      have pascal : Naming.pascal p.definition.name = "conditions" :=
        (Option.some.inj identifier).trans same
      have name : p.definition.name = "conditions" := by
        rw [← planned.canonical, pascal]
        decide +kernel
      rw [name] at pascal
      exact absurd pascal (by decide +kernel)
    next => cases identifier

/-- No item of a type is called like the module of all conditions: the identifier of a type never
is, and the names that are made from it end with another letter. -/
theorem TypePlanned.conditions_not_mem_items {p : TypePlan} (planned : TypePlanned p) :
    "conditions" ∉ p.items := by
  have own := planned.identifier_ne_conditions.symm
  have other {suffix : String} {c : Char} (last : suffix.toList.getLast? = some c)
      (differs : c ≠ 's') : "conditions" ≠ p.identifier ++ suffix := by
    intro same
    have ends := congrArg (fun s => s.toList.getLast?) same
    simp only [String.toList_append, List.getLast?_append, last] at ends
    exact differs (Option.some.inj ends).symm
  have selector : "conditions" ≠ p.selectorName := other rfl (by decide)
  have group : "conditions" ≠ p.groupName := other rfl (by decide)
  have groupSelector : "conditions" ≠ p.groupSelectorName := other rfl (by decide)
  unfold TypePlan.items resourceItems
  split
  · simpa using own
  · split <;> simp [own, selector, group, groupSelector]

/-- The items of a type in the order of the text are those that were compared, in another order. -/
theorem TypePlan.items_perm (p : TypePlan) : p.items.Perm p.itemNames := by
  unfold TypePlan.items TypePlan.itemNames resourceItems
  cases p.form with
  | marker => exact .refl _
  | resource direct perform =>
    cases perform with
    | absent | scalar => exact .refl _
    | group => exact .cons _ (.swap ..)

/-- The items of a text differ. Those of the types were compared, and the module of the conditions
is called like none of them. -/
theorem Plan.nodup_items {plan : Plan} (planned : ∀ p ∈ plan.types, TypePlanned p)
    (distinct : (plan.types.flatMap (·.itemNames)).Nodup) : plan.items.Nodup := by
  have types : (plan.types.flatMap (·.items)).Nodup :=
    (List.Perm.flatMap_left plan.types fun p _ => p.items_perm).nodup_iff.mpr distinct
  refine List.nodup_append.mpr ⟨types, ?_, fun item own module conditions same => ?_⟩
  · unfold conditionItems
    split <;> simp
  · unfold conditionItems at conditions
    split at conditions
    · cases conditions
    · obtain ⟨p, mem, item⟩ := List.mem_flatMap.mp own
      rw [same, List.mem_singleton.mp conditions] at item
      exact (planned p mem).conditions_not_mem_items item

/-! ## Types -/

section

variable {t : TypeDefinition} {direct computed : List RelationPlan}
  (planned : ResourcePlanned t direct computed)

include planned

/-- The fields of a resource differ, the one for its computed relations included: a direct relation
called `perform` is refused beside those. -/
theorem nodup_fieldNames : (fieldNames direct (Perform.of computed)).Nodup := by
  have names : fieldNames direct (Perform.of computed) =
      (direct.map (·.field) ++ (Perform.of computed).also performName).map bareName := by
    have itself : bareName performName = performName := by decide
    cases Perform.of computed <;> simp [fieldNames, Perform.also, itself]
  rw [names]
  refine nodup_bareNames (fun field mem => ?_) planned.fields
  rcases List.mem_append.mp mem with own | perform
  · obtain ⟨r, inside, rfl⟩ := List.mem_map.mp own
    exact (planned.directPlanned.spelt r inside).field
  · have value : valueIdentifier? performName = some performName := by decide
    have same : field = performName := by
      revert perform
      cases Perform.of computed <;> simp [Perform.also]
    exact ⟨_, same ▸ value⟩

/-- The fields of a group differ, as its relations were compared with each other. -/
theorem nodup_groupFields {group : List RelationPlan} (kind : Perform.of computed = .group group) :
    (group.map (bareName ·.field)).Nodup := by
  have distinct := planned.groupFields
  rw [kind] at distinct
  have values : ∀ field ∈ group.map (·.field), IsValue field := by
    intro field mem
    obtain ⟨r, inside, rfl⟩ := List.mem_map.mp mem
    rw [Perform.of_eq_group kind] at inside
    exact (planned.computedPlanned.spelt r inside).field
  have names := nodup_bareNames values distinct
  rwa [List.map_map] at names

end

/-- The name of the shared elements is that of no chain. -/
theorem chainConstant_ne_elements (name : String) : chainConstant name ≠ "ELEMENTS" := by
  intro same
  have ends := congrArg (fun s => s.toList.getLast?) same
  simp [chainConstant] at ends

/-- The constants of a table differ from each other, and from the one for shared names because they
end differently. -/
theorem SelectorTable.Unambiguous.nodup_constantNames {t : SelectorTable}
    (unambiguous : t.Unambiguous) (chains : ∀ e ∈ t.constants, ∃ name, e.constant =
      chainConstant name) : t.constantNames.Nodup := by
  refine List.nodup_append.mpr ⟨?_, unambiguous.constants, fun shared own name mem same => ?_⟩
  · cases t.elements <;> simp
  · obtain ⟨e, inside, rfl⟩ := List.mem_map.mp mem
    obtain ⟨relation, chain⟩ := chains e inside
    cases elements : t.elements with
    | none => simp [elements] at own
    | some names =>
      simp only [elements, Option.map_some, Option.toList_some, List.mem_singleton] at own
      exact chainConstant_ne_elements relation (chain.symm.trans (same.symm.trans own))

/-! ## Regions -/

/-- No region has a name twice. -/
def Distinct (regions : List Region) : Prop := ∀ r ∈ regions, r.names.Nodup

namespace Distinct

theorem nil : Distinct [] := nofun

theorem cons {heading : String} {names : List String} {regions : List Region}
    (first : names.Nodup) (later : Distinct regions) : Distinct (⟨heading, names⟩ :: regions) :=
  List.forall_mem_cons.mpr ⟨first, later⟩

theorem append {a b : List Region} (first : Distinct a) (second : Distinct b) :
    Distinct (a ++ b) :=
  List.forall_mem_append.mpr ⟨first, second⟩

theorem flatMap {α : Type} {regions : α → List Region} {xs : List α}
    (each : ∀ x ∈ xs, Distinct (regions x)) : Distinct (xs.flatMap regions) := by
  intro r mem
  obtain ⟨x, own, mem⟩ := List.mem_flatMap.mp mem
  exact each x own r mem

end Distinct

theorem distinct_constantRegions {t : SelectorTable} (distinct : t.constantNames.Nodup) :
    Distinct t.constantRegions := by
  unfold SelectorTable.constantRegions
  split
  · exact .nil
  · exact .cons distinct .nil

theorem distinct_membersRegions (t : SelectorTable) : Distinct t.membersRegions :=
  .cons (by simp) (.cons (by simp) (.cons (by simp) .nil))

theorem distinct_relationNameRegions (resource selector : String) :
    Distinct (relationNameRegions resource selector) :=
  .cons (by simp) (.cons (by simp) .nil)

section

variable {t : TypeDefinition} {direct computed : List RelationPlan} (p : TypePlan)
  (planned : ResourcePlanned t direct computed) (named : WellNamed t.relations)

include planned named

theorem nodup_selectorConstants :
    (p.selectorTable direct (Perform.of computed)).constantNames.Nodup := by
  refine (selectorTable_unambiguous p planned named).nodup_constantNames fun e mem => ?_
  rcases of_mem_selectorTable mem with ⟨d, -, chain⟩ | chain
  · exact ⟨d.name, chain⟩
  · exact ⟨performName, chain⟩

theorem nodup_groupConstants (kind : Perform.of computed = .group computed) :
    (p.groupTable computed).constantNames.Nodup := by
  refine (groupTable_unambiguous p planned named kind).nodup_constantNames fun e mem => ?_
  obtain ⟨d, -, chain⟩ := of_mem_groupTable mem
  exact ⟨d.name, chain⟩

/-- No block in the text of a resource declares a name twice. -/
theorem distinct_resourceRegions :
    Distinct (resourceRegions p direct (Perform.of computed)) := by
  have fields := nodup_fieldNames planned
  have variants : (variantNames direct (Perform.of computed)).Nodup := planned.variants
  have constants := distinct_constantRegions (nodup_selectorConstants p planned named)
  have members := distinct_membersRegions (p.selectorTable direct (Perform.of computed))
  have name := distinct_relationNameRegions p.identifier p.selectorName
  rcases Perform.of_cases computed with ⟨-, kind⟩ | ⟨d, -, kind⟩ | ⟨-, kind⟩
  · rw [kind] at fields variants constants members ⊢
    exact ((Distinct.cons fields (.cons variants .nil)).append constants).append
      (members.append name)
  · rw [kind] at fields variants constants members ⊢
    exact ((Distinct.cons fields (.cons variants .nil)).append constants).append
      (members.append name)
  · have groupVariants := planned.groupVariants
    have groupConstants := distinct_constantRegions (nodup_groupConstants p planned named kind)
    have groupFields := nodup_groupFields planned kind
    rw [kind] at fields variants constants members groupVariants ⊢
    exact (((Distinct.cons fields (.cons groupFields (.cons variants (.cons groupVariants
      .nil)))).append constants).append groupConstants).append
        (((members.append (distinct_membersRegions _)).append name).append
          (distinct_relationNameRegions _ _))

end

/-- Nor does any block in the text of a type, of whichever form it is. Only here it matters that the
schema was loaded: the relations of a schema made by hand may have one name. -/
theorem distinct_typeRegions {p : TypePlan} (planned : TypePlanned p)
    (named : WellNamed p.definition.relations) : Distinct p.regions := by
  have entity : Distinct [entityRegion p] := .cons (by simp) .nil
  rcases planned.form with ⟨-, form⟩ | ⟨-, direct, computed, form, resource⟩
  · simp only [TypePlan.regions, form]
    exact entity
  · simp only [TypePlan.regions, form]
    exact (distinct_resourceRegions p resource named).append entity

theorem DistinctValues.nodup_bareNames {α : Type} {identifier : α → String} {xs : List α}
    (distinct : DistinctValues (xs.map identifier)) :
    (xs.map fun x => bareName (identifier x)).Nodup := by
  have names := Bindings.nodup_bareNames distinct.values distinct.distinct
  rwa [List.map_map] at names

/-- The modules of conditions differ, and so do the arguments of each function in them. Both were
compared when the conditions were planned. -/
theorem distinct_conditionsRegions {plans : List ConditionPlan}
    (planned : ∀ p ∈ plans, ConditionPlanned p) (distinct : (plans.map (·.moduleName)).Nodup) :
    Distinct (conditionsRegions plans) := by
  unfold conditionsRegions
  split
  · exact .nil
  · have modules : DistinctValues (plans.map (·.moduleName)) := by
      refine ⟨fun name mem => ?_, distinct⟩
      obtain ⟨p, own, rfl⟩ := List.mem_map.mp mem
      exact (planned p own).module
    refine .cons modules.nodup_bareNames (.flatMap fun p mem => ?_)
    have arguments := planned p mem
    exact .cons (by decide) (.cons arguments.init.nodup_bareNames
      (.cons arguments.provided.nodup_bareNames .nil))

/-! ## Bindings of a loaded schema -/

/-- In bindings of a loaded schema no scope declares a name twice. The scopes are read from the
lines of the text below the header, and are those that the plan tells: the items of all types with
the module of the conditions, the fields of each structure, the variants of each enumeration, what
each implementation holds, the modules of the conditions, and what each of these holds, with the
arguments of its functions. They are the scopes of the whole text when the version is one line, for
the header is two comments then. A version of several lines may declare whatever it likes. -/
theorem generate_declares_once {document : Json} {model : Model} {policy : Policy}
    {source : String} (loaded : Model.ofJson document = .ok model)
    (made : generate model policy = .ok source) :
    ∃ plan body, Plan.of model = .ok plan ∧ source = front model.version ++ body ∧
      regions (outlineOf body) = plan.regions ∧
      (∀ region ∈ regions (outlineOf body), region.names.Nodup) ∧
      (Lacks '\n' model.version → regions (outlineOf source) = plan.regions) := by
  obtain ⟨plan, planOf, rfl, definitions, types, items⟩ := generate_ok made
  have version := Plan.version_of planOf
  obtain ⟨each, modules, -⟩ := conditionPlans_ok (Plan.of_conditions planOf)
  have below := regions_below types each policy
  refine ⟨plan, _, planOf, version ▸ plan.source_eq policy, below, below ▸ ?distinct,
    fun one => regions_source types each policy (version ▸ one)⟩
  refine Distinct.cons (Plan.nodup_items types items) (Distinct.append (.flatMap fun p mem => ?_)
    (distinct_conditionsRegions each modules))
  have own : p.definition ∈ model.types := definitions ▸ List.mem_map_of_mem mem
  exact distinct_typeRegions (types p mem) (Model.wellNamed_of_ofJson loaded _ own)

/-- A document with users, forms whose relations are keywords, and a condition with two parameters
of one short name. -/
def trialDocument : Json :=
  let assigned := Json.obj [("this", .obj [])]
  let editors := Json.obj [("computedUserset", .obj [("relation", .str "editor")])]
  let text := Json.obj [("type_name", .str "TYPE_NAME_STRING")]
  .obj [
    ("type_definitions", .arr [
      .obj [("type", .str "user")],
      .obj [("type", .str "form"), ("relations", .obj [("editor", assigned), ("type", assigned),
        ("edit", editors), ("self", editors)])]]),
    ("conditions", .obj [("trial", .obj [("parameters", .obj [("start", text),
      ("start_init", text), ("type_init", text), ("now_provided", text)])])])]

/-- The names in its bindings, scope by scope. -/
def trialNames : List (List String) :=
  [["User", "Form", "FormPerform", "FormRelation", "FormPerformRelation", "conditions"], ["NAME"],
    ["editor", "type", "perform"], ["edit", "self_"], ["Editor", "Type", "Perform"],
    ["Edit", "Self_"], ["EDITOR_CHAIN", "TYPE_CHAIN"], ["ELEMENTS", "EDIT_CHAIN", "SELF_CHAIN"],
    ["members"], [], [], ["members"], [], [], ["relation_name"], [], ["relation_name"], [],
    ["NAME"], ["trial"], ["NAME", "build", "check_context"], ["start", "start_init", "type"],
    ["now"]]

/-- The names that are read from the text of these bindings, scope by scope. The keyword `type` is a
name without the mark that makes it an identifier, and `self` has an underscore. The parameters
`start` and `start_init` have one short name, so the second keeps its full one. -/
theorem generate_declares_once_trial :
    ∃ (model : Model) (source : String), Model.ofJson trialDocument = .ok model ∧
      generate model .standard = .ok source ∧ Lacks '\n' model.version ∧
      (regions (outlineOf source)).map (·.names) = trialNames ∧
      ∀ region ∈ regions (outlineOf source), region.names.Nodup := by
  have names : ((Model.ofJson trialDocument).toOption.bind fun model =>
      (Plan.of model).toOption.map fun plan => (plan.version, plan.regions.map (·.names))) =
      some ("1.1", trialNames) := by
    decide +kernel
  obtain ⟨model, plan, loaded, planned, own⟩ := exists_loaded_plan names
  obtain ⟨version, declared⟩ := Prod.mk.inj own
  have made := generate_of_plan planned .standard
  have one : Lacks '\n' model.version := by
    rw [← Plan.version_of planned, version]
    exact .literal (by decide)
  obtain ⟨plan', body, planOf, -, read, distinct, whole⟩ := generate_declares_once loaded made
  obtain rfl : plan = plan' := Except.ok.inj (planned.symm.trans planOf)
  rw [read] at distinct
  refine ⟨model, _, loaded, made, one, ?_, ?_⟩ <;> rw [whole one]
  · exact declared
  · exact distinct

/-- A document whose version goes on with a declaration of the only type. -/
def repeatingDocument : Json :=
  .obj [("schema_version", .str "1.1\npub struct User;"),
    ("type_definitions", .arr [.obj [("type", .str "user")]])]

/-- The second line of that version declares the type once more, among the items of the text. It
stands in the header, as the comment with the version ends with its first line. -/
theorem version_declares_again :
    ∃ model source, Model.ofJson repeatingDocument = .ok model ∧
      generate model .standard = .ok source ∧
      ∃ region ∈ regions (outlineOf source), region.names = ["User", "User"] ∧
        ¬ region.names.Nodup := by
  have once : ((Model.ofJson repeatingDocument).toOption.bind fun model =>
      (Plan.of model).toOption.map fun plan => (plan.version, plan.items)) =
      some ("1.1" ++ "\n" ++ "pub struct User;", ["User"]) := by
    decide +kernel
  obtain ⟨model, plan, loaded, planned, own⟩ := exists_loaded_plan once
  obtain ⟨version, items⟩ := Prod.mk.inj own
  have made := generate_of_plan planned .standard
  obtain ⟨-, types, -⟩ := Plan.of_types planned
  have conditions := (conditionPlans_ok (Plan.of_conditions planned)).1
  have twice : itemsOf (outlineOf (plan.source .standard)) = ["User", "User"] := by
    have item : Contents.items.declared? ("pub struct " ++ ("User" ++ ";")) = some "User" :=
      declared?_word (by decide) (.of_isIdentifier (by decide)) (by simp [Stops]; decide)
    have lines : outlineOf ("// Schema version: " ++ plan.version) =
        [.line "// Schema version: 1.1", .line "pub struct User;"] := by
      rw [version]
      decide
    have top : Declares .items (outlineOf ("// Schema version: " ++ plan.version)) ["User"] [] :=
      lines ▸ .comment (declared?_comment (by simp)) (.named (by decide) item .nil)
    rw [itemsOf, (declares_source types conditions .standard top).names_eq, items]
    rfl
  refine ⟨model, _, loaded, made, _, List.mem_cons_self, twice, ?_⟩
  rw [twice]
  decide

end Rebac.Bindings
