import Rebac.Bindings.SelectorTable
import Rebac.Condition.Attached
import Rebac.Condition.Value

/-! # A sample schema

Forms and documents, a customer register, groups and teams, and subscriptions with a trial period:
the types, selectors and condition that examples are written with. -/

namespace Rebac.Sample

open Condition (Attached Context Value)
open Schema (Model TypeDefinition Relation Phase)

/-- A type with these direct and computed relations. -/
def typeWith (name : String) (direct computed : List String) : TypeDefinition :=
  ⟨name, direct.map (⟨·, .direct⟩) ++ computed.map (⟨·, .computed⟩)⟩

/-- The condition of a trial period. -/
def activeTrial : Schema.Condition where
  name := "active_trial"
  expression := some "current_time_provided < trial_start_init + trial_duration_init"
  parameters :=
    [⟨"trial_duration_init", .duration⟩, ⟨"trial_start_init", .timestamp⟩,
      ⟨"current_time_provided", .timestamp⟩]

/-- The sample schema. -/
def model : Model where
  version := "1.1"
  types :=
    [typeWith "user" [] [],
      typeWith "group" ["member", "team"] [],
      typeWith "team" ["group", "member"] [],
      typeWith "form" ["approver", "editor", "publisher", "reader"]
        ["approve", "edit", "publish", "read"],
      typeWith "document" ["approver", "editor", "publisher", "reader"]
        ["approve", "edit", "publish", "read"],
      typeWith "crm_company" ["blocked", "editor", "owner", "reader"] ["edit", "read"],
      typeWith "crm_person" ["blocked", "parent"] ["edit", "editor", "owner", "read", "reader"],
      typeWith "crm_email_account" [] [],
      typeWith "subscription" ["free_trial"] []]
  conditions := [activeTrial]

/-- The chain of a selector of the sample: the name of a type, or of its group of computed
relations, then a path of variants. -/
def chain? : List String → Option (List Naming.Member)
  | [] => none
  | owner :: path =>
    match Bindings.typePlans [] model.types with
    | .error _ => none
    | .ok plans =>
      plans.findSome? fun p =>
        if p.identifier = owner then p.chainAt? path
        else if p.groupName = owner then p.chainAt? ("Perform" :: path)
        else none

/-- The context in which a condition binds values to its parameters of a phase, in their order. -/
def bindPhase (c : Schema.Condition) (phase : Phase) (values : List Value) : Context :=
  Context.ofList
    (((c.parameters.filter (·.phase = phase)).zip values).map fun (p, v) => (p.name, v.toJson))

/-- The trial condition with its duration and its start. -/
def buildTrial (duration : Calendar.Span) (start : Calendar.Instant) : Attached :=
  ⟨activeTrial.name, bindPhase activeTrial .init [.duration duration, .timestamp start]⟩

/-- The context in which a trial is checked. -/
def trialCheckContext (now : Calendar.Instant) : Context :=
  bindPhase activeTrial .provided [.timestamp now]

end Rebac.Sample
