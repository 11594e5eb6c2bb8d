import Rebac.Bindings.Source
import Rebac.Proofs.Bindings.ContextFunction
import Rebac.Proofs.Bindings.Plan

/-!
# The two functions of a condition

The text of bindings has a module for each condition, whose functions bind each of its parameters
once: those whose names end in `_provided` when access is checked, and all others when a tuple is
written. No name comes twice, so each value has an entry, and the contexts of the two functions
merge without a loss.
-/

namespace Rebac.Bindings

open Condition (Context Value)
open Schema (Condition Model Parameter)

/-! ## Phases -/

namespace ContextFunction

variable {parameters : List Parameter} {plans : List ArgumentPlan}

theorem keys_ofPlans (plans : List ArgumentPlan) :
    (ofPlans plans).keys = plans.map (·.key) := by
  simp [keys, ofPlans, Function.comp_def]

/-- Called with values a function gives a context: one entry for each of its keys, with the value
in its place. -/
structure Gives (f : ContextFunction) (values : List Value) (context : Context) : Prop where
  call : f.call? values = some context
  keys : Keyed.keys context.entries = f.keys
  entries : context.entries = f.keys.zip (values.map (·.toJson))

theorem exists_gives (planned : ArgumentsPlanned parameters plans) {values : List Value}
    (kinds : values.map (·.kind) = parameters.map (·.kind)) :
    ∃ context, (ofPlans plans).Gives values context := by
  have given : values.map (·.kind) = plans.map (·.kind) := by
    rw [kinds, ← planned.parameters, List.map_map]
    rfl
  have counted : (plans.map (·.key)).length ≤ (values.map (·.toJson)).length := by
    have lengths := congrArg List.length given
    simp only [List.length_map] at lengths ⊢
    exact Nat.le_of_eq lengths.symm
  have keys : Keyed.keys ((plans.map (·.key)).zip (values.map (·.toJson))) = plans.map (·.key) :=
    List.map_fst_zip counted
  have entries : (Context.ofList ((plans.map (·.key)).zip (values.map (·.toJson)))).entries =
      (plans.map (·.key)).zip (values.map (·.toJson)) :=
    Keyed.ofList_of_nodup (by rw [keys]; exact planned.keys)
  refine ⟨_, call?_ofPlans planned.arguments.distinct given, ?_, ?_⟩
  · rw [entries, keys, keys_ofPlans]
  · rw [entries, keys_ofPlans]

end ContextFunction

/-- Whether the name of a parameter tells that it is supplied when access is checked. -/
def isProvided (p : Parameter) : Bool := Text.endsWith p.name "_provided"

/-- Two functions bind parameters, each when its name tells. A parameter is a key of one of them
alone, and no key comes twice. Called with values for their parameters they give contexts with an
entry for each, which merge into one with the entries of both. -/
structure BindsPhases (parameters : List Parameter) (build check : ContextFunction) : Prop where
  atWrite : build.Binds (parameters.filter fun p => !isProvided p)
  atCheck : check.Binds (parameters.filter isProvided)
  phase : ∀ p ∈ parameters,
    (p.name ∈ build.keys ↔ isProvided p = false) ∧ (p.name ∈ check.keys ↔ isProvided p = true)
  distinct : (build.keys ++ check.keys).Nodup
  values : ∀ written supplied : List Value,
    written.map (·.kind) = (parameters.filter fun p => !isProvided p).map (·.kind) →
    supplied.map (·.kind) = (parameters.filter isProvided).map (·.kind) →
    ∃ granted context, build.Gives written granted ∧ check.Gives supplied context ∧
      (granted.merge context).entries = granted.entries ++ context.entries

theorem phase_eq (p : Parameter) : p.phase = if isProvided p then .provided else .init := rfl

theorem initParameters_eq (c : Condition) :
    c.initParameters = c.parameters.filter fun p => !isProvided p := by
  refine List.filter_congr fun p _ => ?_
  rw [phase_eq]
  cases isProvided p <;> rfl

theorem providedParameters_eq (c : Condition) :
    c.providedParameters = c.parameters.filter isProvided := by
  refine List.filter_congr fun p _ => ?_
  rw [phase_eq]
  cases isProvided p <;> rfl

/-- The name of a parameter is among the names of those that a test of names passes when it passes
the test itself. -/
theorem name_mem_filter (test : String → Bool) {parameters : List Parameter} {p : Parameter}
    (mem : p ∈ parameters) :
    p.name ∈ (parameters.filter (test ·.name)).map (·.name) ↔ test p.name = true := by
  constructor
  · intro named
    obtain ⟨q, passed, same⟩ := List.mem_map.mp named
    exact same ▸ (List.mem_filter.mp passed).2
  · intro passed
    exact List.mem_map_of_mem (List.mem_filter.mpr ⟨mem, passed⟩)

section

variable {parameters : List Parameter} {build check : ContextFunction}
  (atWrite : build.Binds (parameters.filter fun p => !isProvided p))
  (atCheck : check.Binds (parameters.filter isProvided))

include atWrite atCheck

theorem mem_keys_iff {p : Parameter} (mem : p ∈ parameters) :
    (p.name ∈ build.keys ↔ isProvided p = false) ∧
      (p.name ∈ check.keys ↔ isProvided p = true) := by
  rw [atWrite.keys, atCheck.keys]
  have own := name_mem_filter (fun name => !Text.endsWith name "_provided") mem
  have supplied := name_mem_filter (Text.endsWith · "_provided") mem
  exact ⟨own.trans (by simp [isProvided]), supplied⟩

/-- Two functions share no key, because a key has the end of a phase or has it not. -/
theorem nodup_keys_append (once : build.keys.Nodup) (once' : check.keys.Nodup) :
    (build.keys ++ check.keys).Nodup := by
  refine List.nodup_append.mpr ⟨once, once', fun name own name' supplied same => ?_⟩
  obtain ⟨p, passed, rfl⟩ := List.mem_map.mp (atWrite.keys ▸ own)
  obtain ⟨mem, -⟩ := List.mem_filter.mp passed
  have keys := mem_keys_iff atWrite atCheck mem
  have never : isProvided p = false := keys.1.mp own
  rw [keys.2.mp (same ▸ supplied)] at never
  cases never

end

theorem ConditionPlan.bindsPhases {c : Condition} {p : ConditionPlan}
    (ok : ConditionPlan.of c = .ok p) :
    BindsPhases c.parameters (.ofPlans p.init) (.ofPlans p.provided) := by
  obtain ⟨-, init, provided⟩ := ConditionPlan.of_arguments ok
  rw [initParameters_eq] at init
  rw [providedParameters_eq] at provided
  have atWrite := binds_ofPlans init.arguments.distinct
  have atCheck := binds_ofPlans provided.arguments.distinct
  rw [init.parameters] at atWrite
  rw [provided.parameters] at atCheck
  have distinct := nodup_keys_append atWrite atCheck
    (ContextFunction.keys_ofPlans p.init ▸ init.keys)
    (ContextFunction.keys_ofPlans p.provided ▸ provided.keys)
  refine ⟨atWrite, atCheck, fun q mem => mem_keys_iff atWrite atCheck mem, distinct,
    fun written supplied kinds kinds' => ?_⟩
  obtain ⟨granted, given⟩ := ContextFunction.exists_gives init kinds
  obtain ⟨context, given'⟩ := ContextFunction.exists_gives provided kinds'
  refine ⟨granted, context, given, given', Keyed.putAll_of_nodup ?_⟩
  rw [← given.keys, ← given'.keys] at distinct
  rwa [Keyed.keys, List.map_append]

/-! ## Modules -/

/-- Pieces are the body of the module of a condition in a text: they close the blocks that they
open, hold the name of the condition, and are a block of the module of all conditions. -/
structure ModuleOf (c : Condition) (text body : List Piece) : Prop where
  closed : Closed body
  name : .line ("pub const NAME: &str = " ++ Text.quoted c.name ++ ";") ∈ body
  stands : ∃ modules identifier, Closed modules ∧ block "pub mod conditions" modules <:+: text ∧
    block ("pub mod " ++ identifier) body <:+: modules

namespace ConditionPlan

variable (p : ConditionPlan)

theorem closed_body : Closed p.body :=
  .line (.line (.blank (.line (.append (.block (.line .nil))
    (.blank (.line (.block (.line .nil))))))))

theorem closed_comment : Closed p.comment := by
  unfold comment
  cases p.condition.expression with
  | none => exact .line .nil
  | some expression => exact .line (.line (.line .nil))

theorem name_mem_body :
    .line ("pub const NAME: &str = " ++ Text.quoted p.condition.name ++ ";") ∈ p.body := by
  simp [body, spaced]

/-- Of whatever form, the functions in a module are among the two that were written. -/
theorem functions_body (form : FunctionForm) : form.functions p.body =
    (form.read? (buildForm.heading p.init) (buildForm.context p.init)).toList ++
      (form.read? (checkForm.heading p.provided) (checkForm.context p.provided)).toList := by
  have build : "pub fn build(" ++ signature p.init ++ ") -> ::fluentfga::ConditionInstance" =
      buildForm.heading p.init := by
    rw [← String.toList_inj]
    simp [FunctionForm.heading, buildForm]
  have granted : "::fluentfga::ConditionInstance::new(NAME, " ++ contextText p.init ++ ")" =
      buildForm.context p.init := rfl
  have check : "pub fn check_context(" ++ signature p.provided ++
      ") -> ::fluentfga::ConditionContext" = checkForm.heading p.provided := by
    rw [← String.toList_inj]
    simp [FunctionForm.heading, checkForm]
  have context : contextText p.provided = checkForm.context p.provided := by
    simp [FunctionForm.context, checkForm]
  rw [body, build, granted, check, context]
  simp [spaced, block, FunctionForm.functions]

end ConditionPlan

theorem buildForm_read?_check (plans : List ArgumentPlan) (line : String) :
    buildForm.read? (checkForm.heading plans) line = none := by
  refine FunctionForm.read?_other line ?_
  simp [FunctionForm.heading, buildForm, checkForm, Text.beginsWith]
  rfl

theorem checkForm_read?_build (plans : List ArgumentPlan) (line : String) :
    checkForm.read? (buildForm.heading plans) line = none := by
  refine FunctionForm.read?_other line ?_
  simp [FunctionForm.heading, buildForm, checkForm, Text.beginsWith]
  rfl

/-- A text that has the modules of all conditions has the module of each, whatever stands above it,
as long as no block is open there. -/
theorem moduleOf_of_infix {plans : List ConditionPlan} (above : ConditionPlan → List Piece)
    (closed : ∀ q ∈ plans, Closed (above q)) {text : List Piece}
    (stands : block "pub mod conditions"
      (spaced (plans.map fun q => above q ++ block ("pub mod " ++ q.moduleName) q.body)) <:+: text)
    {p : ConditionPlan} (mem : p ∈ plans) : ModuleOf p.condition text p.body := by
  refine ⟨p.closed_body, p.name_mem_body, _, p.moduleName, .spaced ?closed, stands, ?own⟩
  case closed =>
    exact List.forall_mem_map.mpr fun q own => (closed q own).append q.closed_body.block
  case own => exact (List.suffix_append ..).isInfix.trans (infix_spaced (List.mem_map_of_mem mem))

/-- The part of all conditions is among those below the header. -/
theorem Plan.conditions_mem_below (plan : Plan) (policy : Accessor.Policy) {p : ConditionPlan}
    (mem : p ∈ plan.conditions) :
    .line "/// Builders for the conditions declared in the schema." ::
      block "pub mod conditions" (spaced (plan.conditions.map ConditionPlan.pieces)) ∈
        plan.below policy := by
  have planned : plan.conditions.isEmpty = false :=
    List.isEmpty_eq_false_iff.mpr (List.ne_nil_of_mem mem)
  refine List.mem_append_right _ ?_
  rw [conditionParts, planned]
  exact List.mem_singleton.mpr rfl

/-- The module of a condition is among the pieces that were written. -/
theorem Plan.moduleOf_parts (plan : Plan) (policy : Accessor.Policy) {p : ConditionPlan}
    (mem : p ∈ plan.conditions) : ModuleOf p.condition (spaced (plan.parts policy)) p.body := by
  have own := infix_spaced (List.mem_cons_of_mem (header plan.version)
    (plan.conditions_mem_below policy mem))
  exact moduleOf_of_infix ConditionPlan.comment (fun q _ => q.closed_comment)
    ((List.suffix_cons ..).isInfix.trans own) mem

/-- So it is in the outline that is read from the text below the header. There the comment above it
may take several lines, none of which opens or closes a block. -/
theorem Plan.moduleOf_outline (plan : Plan) (policy : Accessor.Policy)
    (planned : ∀ q ∈ plan.conditions, ConditionPlanned q)
    {p : ConditionPlan} (mem : p ∈ plan.conditions) :
    ModuleOf p.condition (outlineOf (render 0 (apart (plan.below policy)))) p.body := by
  have closed : ∀ q ∈ plan.conditions, Closed (reread q.comment) :=
    fun q own => (Declares.idle (idle_comment (planned q own))).closed
  have read : plan.conditions.map (reread ·.pieces) = plan.conditions.map fun q =>
      reread q.comment ++ block ("pub mod " ++ q.moduleName) q.body :=
    List.map_congr_left fun q own => reread_conditionPieces (planned q own)
  have own := plan.reread_infix_outline policy (plan.conditions_mem_below policy mem)
  rw [reread_modules, read] at own
  exact moduleOf_of_infix (reread ·.comment) closed ((List.suffix_cons ..).isInfix.trans own) mem

/-- In the module of a condition one function of each phase is read. -/
theorem functions_body_eq {p : ConditionPlan} (planned : ConditionPlanned p) :
    buildForm.functions p.body = [.ofPlans p.init] ∧
      checkForm.functions p.body = [.ofPlans p.provided] := by
  constructor
  · rw [p.functions_body, buildForm.read?_eq planned.init.of_mem, buildForm_read?_check]
    rfl
  · rw [p.functions_body, checkForm.read?_eq planned.provided.of_mem, checkForm_read?_build]
    rfl

/-! ## Bindings -/

/-- Bindings have a module for each condition, in which one function to build conditions and one to
build contexts for checks are read. The first binds the parameters whose names do not end in
`_provided`, and the second those whose names do. The module is among the pieces and stands in the
lines of the text below the header. -/
theorem generate_binds_parameters {model : Model} {policy : Accessor.Policy} {source : String}
    (made : generate model policy = .ok source) :
    ∃ plan below, Plan.of model = .ok plan ∧ render 0 (spaced (plan.parts policy)) = source ∧
      source = front model.version ++ below ∧
      ∀ c ∈ model.conditions, ∃ body build check,
        ModuleOf c (spaced (plan.parts policy)) body ∧ ModuleOf c (outlineOf below) body ∧
        buildForm.functions body = [build] ∧ checkForm.functions body = [check] ∧
        BindsPhases c.parameters build check := by
  obtain ⟨plan, planned, text, -, -⟩ := generate_ok made
  have version := Plan.version_of planned
  have conditions := Plan.of_conditions planned
  refine ⟨plan, _, planned, text, text ▸ version ▸ plan.source_eq policy, fun c mem => ?_⟩
  obtain ⟨p, own, here⟩ := exists_conditionPlan conditions mem
  have written := plan.moduleOf_parts policy own
  have read := plan.moduleOf_outline policy (conditionPlans_ok conditions).1 own
  obtain ⟨build, check⟩ := functions_body_eq (ConditionPlan.of_ok here)
  rw [(ConditionPlan.of_arguments here).1] at written read
  exact ⟨p.body, _, _, written, read, build, check, ConditionPlan.bindsPhases here⟩

/-- A condition with two parameters of one short name. -/
def windowCondition : Condition where
  name := "window"
  expression := none
  parameters := [⟨"start", .string⟩, ⟨"now_provided", .string⟩, ⟨"start_init", .string⟩]

/-- A schema with that condition alone. -/
def windowModel : Model := ⟨"1.1", [], [windowCondition]⟩

/-- The two parameters of one short name are two arguments, and the merged context has an entry for
each of the three parameters. -/
theorem generate_binds_parameters_window :
    ∃ source plan below body build check granted context,
      generate windowModel .standard = .ok source ∧
      Plan.of windowModel = .ok plan ∧ render 0 (spaced (plan.parts .standard)) = source ∧
      source = front "1.1" ++ below ∧
      ModuleOf windowCondition (spaced (plan.parts .standard)) body ∧
      ModuleOf windowCondition (outlineOf below) body ∧
      buildForm.functions body = [build] ∧ checkForm.functions body = [check] ∧
      build.keys = ["start", "start_init"] ∧ check.keys = ["now_provided"] ∧
      build.call? [.string "a", .string "b"] = some granted ∧
      check.call? [.string "c"] = some context ∧
      (granted.merge context).entries =
        [("start", .str "a"), ("start_init", .str "b"), ("now_provided", .str "c")] := by
  have version : (Plan.of windowModel).toOption.map (·.version) = some "1.1" := by decide +kernel
  obtain ⟨plan, planned, -⟩ := exists_plan version
  obtain ⟨plan', below, planOf, text, split, each⟩ :=
    generate_binds_parameters (generate_of_plan planned .standard)
  obtain rfl : plan = plan' := Except.ok.inj (planned.symm.trans planOf)
  obtain ⟨body, build, check, written, read, first, second, binds⟩ :=
    each windowCondition List.mem_cons_self
  have buildKeys : build.keys = ["start", "start_init"] := binds.atWrite.keys
  have checkKeys : check.keys = ["now_provided"] := binds.atCheck.keys
  obtain ⟨granted, context, given, given', merged⟩ :=
    binds.values [.string "a", .string "b"] [.string "c"] rfl rfl
  refine ⟨_, plan, below, body, build, check, granted, context,
    generate_of_plan planned .standard, planned, text, split, written, read, first, second,
    buildKeys, checkKeys, given.call, given'.call, ?_⟩
  rw [merged, given.entries, given'.entries, buildKeys, checkKeys]
  rfl

end Rebac.Bindings
