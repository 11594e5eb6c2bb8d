import Rebac.Http.Client
import Rebac.Proofs.Bindings.Plain
import Rebac.Sample

/-!
# References of the bindings

The name of each type is a literal in the text of its bindings, where it is read back. From it the
references of the type are made, which are divided again before a query for users is sent.
-/

namespace Rebac.Bindings

open Accessor (Policy)
open Http (Client Exchange)
open Schema (Model)

/-! ## In the text -/

/-- The bindings of a type hold its name as a literal. -/
theorem entityImpl_eq {p : TypePlan} (planned : TypePlanned p) :
    entityImpl p = block ("impl ::fluentfga::Entity for " ++ p.identifier)
      [.line ("const NAME: &'static str = \"" ++ p.entityName ++ "\";")] := by
  have opening : "const NAME: &'static str = " ++ "\"" = "const NAME: &'static str = \"" := by
    decide
  have closing : "\"" ++ ";" = "\";" := by decide
  rw [entityImpl, quoted_of_isIdentifier planned.isIdentifier_entityName, ← String.append_assoc,
    ← String.append_assoc, opening, String.append_assoc, closing]

theorem entityImpl_mem_parts (p : TypePlan) : entityImpl p ∈ p.parts := by
  unfold TypePlan.parts
  split <;> simp

/-! ## In queries -/

/-- A query for the users of an entity names the type and the id apart. It is not sent when the id
is empty. -/
theorem listUsers_entity {p : TypePlan} (planned : TypePlanned p) (client : Client)
    (id relation userType : String) (x : Exchange) :
    client.listUsers (p.entity id).reference relation userType x =
      if id = "" then
        ((client.storeUrl "list-users").bind fun _ =>
          .error (.invalidReference (p.entity id).reference), x)
      else
        client.postToStore "list-users"
          (Http.listUsersBody p.definition.name id relation userType client.modelId)
          Http.listedUsers? x := by
  unfold Client.listUsers Client.postToStore
  rw [planned.splitReference_entity]
  cases client.storeUrl "list-users" with
  | error e => simp [Except.bind]
  | ok url =>
    by_cases empty : id = ""
    · simp [empty, Except.bind]
    · simp [empty]

/-- What the bindings of a type promise of its references: its name is among the parts and in the
outline that is read from the text, a reference is the type of the schema and the id around a colon,
and it is divided there before a query is sent. -/
structure EntityBound (parts : List (List Piece)) (outline : List Piece) (p : TypePlan) :
    Prop where
  declared : block ("impl ::fluentfga::Entity for " ++ p.identifier)
    [.line ("const NAME: &'static str = \"" ++ p.entityName ++ "\";")] ∈ parts
  stands : block ("impl ::fluentfga::Entity for " ++ p.identifier)
    [.line ("const NAME: &'static str = \"" ++ p.entityName ++ "\";")] <:+: outline
  reference (id : String) : (p.entity id).reference = p.definition.name ++ ":" ++ id
  split (id : String) : Naming.splitReference (p.entity id).reference =
    if id = "" then none else some (p.definition.name, id)
  listUsers (client : Client) (id relation userType : String) (x : Exchange) :
    client.listUsers (p.entity id).reference relation userType x =
      if id = "" then
        ((client.storeUrl "list-users").bind fun _ =>
          .error (.invalidReference (p.entity id).reference), x)
      else
        client.postToStore "list-users"
          (Http.listUsersBody p.definition.name id relation userType client.modelId)
          Http.listedUsers? x

/-- Bindings declare each type of the schema under a name whose references are read back, and two
references are equal only for the same type and the same id. The name stands in the lines below the
header. -/
theorem generate_references_apart {model : Model} {policy : Policy} {source : String}
    (made : generate model policy = .ok source) :
    ∃ plan below, Plan.of model = .ok plan ∧ plan.source policy = source ∧
      source = front model.version ++ below ∧ plan.types.map (·.definition) = model.types ∧
      (∀ p ∈ plan.types, EntityBound (plan.parts policy) (outlineOf below) p) ∧
      ∀ (i j : Nat) (p q : TypePlan) (a b : String),
        plan.types[i]? = some p → plan.types[j]? = some q →
        (p.entity a).reference = (q.entity b).reference → i = j ∧ a = b := by
  obtain ⟨plan, planOf, text, definitions, planned, nodup⟩ := generate_ok made
  have version := Plan.version_of planOf
  refine ⟨plan, _, planOf, text, text ▸ version ▸ plan.source_eq policy, definitions, ?bound,
    ?apart⟩
  case bound =>
    intro p mem
    have plannedType := planned p mem
    exact {
      declared := entityImpl_eq plannedType ▸ Plan.mem_parts policy mem (entityImpl_mem_parts p)
      stands := entityImpl_eq plannedType ▸
        plan.infix_outline policy planned mem (List.mem_append_left _ (entityImpl_mem_parts p))
      reference := plannedType.reference_entity
      split := plannedType.splitReference_entity
      listUsers := listUsers_entity plannedType }
  case apart =>
    intro i j p q a b hereP hereQ same
    have plannedP := planned p (List.mem_of_getElem? hereP)
    have plannedQ := planned q (List.mem_of_getElem? hereQ)
    obtain ⟨name, id⟩ := plannedP.entity_reference_inj plannedQ same
    have identifier := plannedP.identifier_eq_of_name_eq plannedQ name
    have inRange : i < (plan.types.map (·.identifier)).length := by
      rw [List.length_map]
      exact (List.getElem?_eq_some_iff.mp hereP).1
    have place : (plan.types.map (·.identifier))[i]? = (plan.types.map (·.identifier))[j]? := by
      rw [List.getElem?_map, List.getElem?_map, hereP, hereQ, Option.map_some, Option.map_some,
        identifier]
    exact ⟨(List.getElem?_inj inRange (nodup_identifiers nodup)).mp place, id⟩

/-- Users, and companies that they own. -/
def companyModel : Model where
  version := "1.1"
  types := [Sample.typeWith "user" [] [], Sample.typeWith "crm_company" ["owner"] ["edit", "read"]]
  conditions := []

/-- The bindings of that schema have an entity for each of the two types. -/
theorem generate_references_apart_company :
    ∃ (source : String) (plan : Plan) (below : String),
      generate companyModel .standard = .ok source ∧ plan.source .standard = source ∧
      source = front "1.1" ++ below ∧ plan.types.length = 2 ∧
      ∀ p ∈ plan.types, EntityBound (plan.parts .standard) (outlineOf below) p := by
  have possible : (Plan.of companyModel).isOk = true := by decide +kernel
  cases planned : Plan.of companyModel with
  | error e =>
    rw [planned] at possible
    cases possible
  | ok plan =>
    have made := generate_of_plan planned .standard
    obtain ⟨plan', below, -, text, split, definitions, bound, -⟩ := generate_references_apart made
    refine ⟨_, plan', below, made, text, split, ?_, bound⟩
    rw [← List.length_map (·.definition), definitions]
    rfl

end Rebac.Bindings
