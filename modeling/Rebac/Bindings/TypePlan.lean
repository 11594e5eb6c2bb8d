import Rebac.Bindings.Error
import Rebac.Bindings.Identifier
import Rebac.Schema.Basic

/-! # Plans of types

What the bindings of a type declare. Direct relations are fields and variants of the type itself.
A single computed relation is the scalar `perform`; several form a group of that name. -/

namespace Rebac.Bindings

open Schema (TypeDefinition Relation Model)

/-- The name of the group of computed relations. -/
def performName : String := "perform"

/-- A relation, with its field and its selector variant. -/
structure RelationPlan where
  name : String
  field : String
  variant : String
deriving DecidableEq, Repr

/-- How the computed relations of a type are bound. -/
inductive Perform where
  | absent
  | scalar (relation : RelationPlan)
  | group (relations : List RelationPlan)
deriving DecidableEq, Repr

/-- What a type is in the bindings. -/
inductive Form where
  /-- A type without relations: a marker of accessors. -/
  | marker
  /-- A type with relations. -/
  | resource (direct : List RelationPlan) (perform : Perform)
deriving DecidableEq, Repr

/-- The plan of a type. -/
structure TypePlan where
  definition : TypeDefinition
  /-- The name by which the bindings refer to the type at run time. -/
  entityName : String
  /-- The identifier of the type. -/
  identifier : String
  form : Form
deriving DecidableEq, Repr

/-- The first name that is in `seen` or repeats an earlier one. -/
def firstRepeat? : List String → List String → Option String
  | _, [] => none
  | seen, name :: rest => if name ∈ seen then some name else firstRepeat? (name :: seen) rest

/-- Demands that the names of a scope differ. -/
def requireDistinct (scope : Scope) (typeName : String) (names : List String) :
    Except Error Unit :=
  match firstRepeat? [] names with
  | some name => .error (.repeatedName scope name typeName)
  | none => .ok ()

/-- The plan of a relation, whose name must make identifiers. -/
def RelationPlan.of (typeName : String) (relation : Relation) : Except Error RelationPlan :=
  match valueIdentifier? relation.name, typeIdentifier? (Naming.pascal relation.name) with
  | some field, some variant => .ok ⟨relation.name, field, variant⟩
  | _, _ => .error (.notRelationIdentifier relation.name typeName)

/-- The plans of relations in order. -/
def relationPlans (typeName : String) : List Relation → Except Error (List RelationPlan)
  | [] => .ok []
  | relation :: rest => do
    let plan ← RelationPlan.of typeName relation
    let others ← relationPlans typeName rest
    return plan :: others

/-- How these computed relations are bound. -/
def Perform.of : List RelationPlan → Perform
  | [] => .absent
  | [relation] => .scalar relation
  | relations => .group relations

/-- The name of the group, where there is one, among names of its kind. -/
def Perform.also (name : String) : Perform → List String
  | .absent => []
  | .scalar _ | .group _ => [name]

/-- The relations of the group. -/
def Perform.members : Perform → List RelationPlan
  | .group relations => relations
  | .absent | .scalar _ => []

/-- Demands that the names a resource declares differ, scope by scope. -/
def requireDistinctNames (typeName : String) (direct : List RelationPlan) (perform : Perform) :
    Except Error Unit := do
  requireDistinct .selectorVariant typeName (direct.map (·.variant) ++ perform.also "Perform")
  requireDistinct .field typeName (direct.map (·.field) ++ perform.also performName)
  requireDistinct .performVariant typeName (perform.members.map (·.variant))
  requireDistinct .performField typeName (perform.members.map (·.field))

/-- The form of a type with relations. -/
def Form.ofRelations (t : TypeDefinition) : Except Error Form := do
  let direct ← relationPlans t.name t.direct
  let computed ← relationPlans t.name t.computed
  let perform := Perform.of computed
  if perform ≠ .absent ∧ direct.any (·.name = performName) then
    .error (.reservedRelation t.name)
  else
    requireDistinctNames t.name direct perform
    return .resource direct perform

/-- The identifier of a type, whose name must be the canonical form of its Pascal form. -/
def canonicalIdentifier? (typeName : String) : Option String :=
  if Naming.canonical (Naming.pascal typeName) = typeName then
    typeIdentifier? (Naming.pascal typeName)
  else none

/-- The plan of a type. -/
def TypePlan.of (t : TypeDefinition) : Except Error TypePlan :=
  match canonicalIdentifier? t.name with
  | none => .error (.nonCanonicalType t.name)
  | some identifier => do
    let form ← if t.hasRelations then Form.ofRelations t else .ok .marker
    return ⟨t, Naming.pascal t.name, identifier, form⟩

/-- The name of the selector of a type. -/
def TypePlan.selectorName (p : TypePlan) : String := p.identifier ++ "Relation"

/-- The name of the group of computed relations of a type. -/
def TypePlan.groupName (p : TypePlan) : String := p.identifier ++ "Perform"

/-- The name of the selector of that group. -/
def TypePlan.groupSelectorName (p : TypePlan) : String := p.identifier ++ "PerformRelation"

/-- The types that the bindings of a type declare. -/
def TypePlan.itemNames (p : TypePlan) : List String :=
  p.identifier :: match p.form with
    | .marker => []
    | .resource _ (.group _) => [p.selectorName, p.groupName, p.groupSelectorName]
    | .resource _ _ => [p.selectorName]

/-- The plans of types in order. No declared type may be among `items` or come twice. -/
def typePlans : List String → List TypeDefinition → Except Error (List TypePlan)
  | _, [] => .ok []
  | items, t :: rest => do
    let plan ← TypePlan.of t
    match firstRepeat? items plan.itemNames with
    | some item => .error (.repeatedItem item)
    | none =>
      let others ← typePlans (items ++ plan.itemNames) rest
      return plan :: others

end Rebac.Bindings
