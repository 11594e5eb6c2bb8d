import Rebac.Json.Reader
import Rebac.Schema.Basic
import Rebac.Schema.LoadError

/-! # Schema documents

A schema is loaded from JSON. Relations, conditions and parameters may each be an object keyed by
name, or an array of entries that carry their names. -/

namespace Rebac.Schema

/-- The version of a schema that declares none. -/
def defaultVersion : String := "1.1"

/-- The text of a member, unless it is empty. -/
def nonemptyText? (j : Option Json) : Option String :=
  (j.bind Json.str?).filter (· ≠ "")

mutual

/-- Whether a userset is `this`, or a union that holds `this` among its children at any depth. -/
def containsThis : Json → Bool
  | .obj members => (Keyed.find? members "this").isSome || unionContainsThis members
  | _ => false

/-- `containsThis` for the first member named `union`. -/
def unionContainsThis : List (String × Json) → Bool
  | [] => false
  | (name, j) :: rest => if name = "union" then operandContainsThis j else unionContainsThis rest

/-- `containsThis` for the children of a union. -/
def operandContainsThis : Json → Bool
  | .obj members => childContainsThis members
  | _ => false

/-- `containsThis` for the first member named `child`. -/
def childContainsThis : List (String × Json) → Bool
  | [] => false
  | (name, j) :: rest => if name = "child" then listContainsThis j else childContainsThis rest

/-- `containsThis` for the items of an array. -/
def listContainsThis : Json → Bool
  | .arr items => someContainsThis items
  | _ => false

/-- `containsThis` for one of the items. -/
def someContainsThis : List Json → Bool
  | [] => false
  | j :: rest => containsThis j || someContainsThis rest

end

/-- Whether the metadata of a relation lists user types that may be assigned to it. -/
def listsUserTypes (metadata : Option Json) : Bool :=
  match metadata.bind (·.get? "directly_related_user_types") with
  | some (.arr items) => !items.isEmpty
  | _ => false

/-- The kind of a relation: what its `direct` flag says, or else direct when its metadata lists
user types or its userset contains `this`. -/
def relationKind (userset : Json) (metadata : Option Json) : RelationKind :=
  match (userset.get? "direct").bind Json.bool? with
  | some true => .direct
  | some false => .computed
  | none => if listsUserTypes metadata || containsThis userset then .direct else .computed

/-- The relations of a type as the document writes them, each with its name where it has one. Only
an object, an array, null and absence are relations. -/
def relationEntries? : Option Json → Option (List (Option String × Json))
  | none | some .null => some []
  | some (.obj members) => some (members.map fun (name, userset) => (some name, userset))
  | some (.arr items) => some (items.map fun item => (nonemptyText? (item.get? "name"), item))
  | some _ => none

/-- Loads relations from `position` on. No canonical name may be among `seen` or come twice. -/
def loadRelations (typeName : String) (metadata : Option Json) :
    Nat → List String → List (Option String × Json) → Except LoadError (List Relation)
  | _, _, [] => .ok []
  | position, _, (none, _) :: _ => .error (.relationWithoutName position typeName)
  | position, seen, (some name, userset) :: rest =>
    let relation := Relation.named name (relationKind userset (metadata.bind (·.get? name)))
    if relation.name ∈ seen then .error (.duplicateRelation typeName relation.name)
    else do
      let others ← loadRelations typeName metadata (position + 1) (relation.name :: seen) rest
      return relation :: others

/-- The name of a type entry: its `type`, or its `name` when it has no `type` member. -/
def typeName? (entry : Json) : Option String :=
  nonemptyText? ((entry.get? "type").or (entry.get? "name"))

/-- Loads the type at `index`. -/
def loadType (index : Nat) (entry : Json) : Except LoadError TypeDefinition :=
  match typeName? entry with
  | none => .error (.typeWithoutName index)
  | some name =>
    let metadata := (entry.get? "metadata").bind (·.get? "relations")
    match relationEntries? (entry.get? "relations") with
    | none => .error (.misshapenRelations name)
    | some entries => do return ⟨name, ← loadRelations name metadata 0 [] entries⟩

/-- Loads types from `index` on. No name may be among `seen` or come twice. -/
def loadTypes : Nat → List String → List Json → Except LoadError (List TypeDefinition)
  | _, _, [] => .ok []
  | index, seen, entry :: rest => do
    let definition ← loadType index entry
    if definition.name ∈ seen then .error (.duplicateType definition.name)
    else
      let others ← loadTypes (index + 1) (definition.name :: seen) rest
      return definition :: others

/-- The parameters of a condition as the document writes them, each with its name and its declared
type where it has them. -/
def parameterEntries? : Option Json → Option (List (Option String × Option Json))
  | none | some .null => some []
  | some (.obj members) =>
    some (members.map fun (name, entry) =>
      (some name, (entry.get? "type_name").or (entry.get? "type")))
  | some (.arr items) =>
    some (items.map fun entry =>
      (nonemptyText? (entry.get? "name"), (entry.get? "type").or (entry.get? "type_name")))
  | some _ => none

/-- Loads one parameter. -/
def loadParameter (condition : String) (entry : Option String × Option Json) :
    Except LoadError Parameter :=
  match entry with
  | (none, _) => .error (.parameterWithoutName condition)
  | (some name, declared) =>
    match declared.bind Json.str? with
    | none => .error (.parameterWithoutType condition name)
    | some typeName =>
      match KindMapping.ofTypeName typeName with
      | .exact kind => .ok ⟨name, kind⟩
      | .fallback => .ok ⟨name, .string⟩
      | .unsupported => .error (.unsupportedParameterType condition name typeName)

/-- Loads parameters in order. -/
def loadParameters (condition : String) :
    List (Option String × Option Json) → Except LoadError (List Parameter)
  | [] => .ok []
  | entry :: rest => do
    let parameter ← loadParameter condition entry
    let others ← loadParameters condition rest
    return parameter :: others

/-- Gives each condition of an array its name, counting from `index`. -/
def namedConditions : Nat → List Json → Except LoadError (List (String × Json))
  | _, [] => .ok []
  | index, entry :: rest =>
    match (entry.get? "name").bind Json.str? with
    | none => .error (.conditionWithoutName index)
    | some name => do return (name, entry) :: (← namedConditions (index + 1) rest)

/-- The conditions as the document writes them, with their names. In an object an entry's own name
comes before its key. -/
def conditionEntries : Option Json → Except LoadError (List (String × Json))
  | none | some .null => .ok []
  | some (.obj members) =>
    .ok (members.map fun (key, entry) =>
      (((entry.get? "name").bind Json.str?).getD key, entry))
  | some (.arr items) => namedConditions 0 items
  | some _ => .error .misshapenConditions

/-- Loads one condition. -/
def loadCondition (name : String) (entry : Json) : Except LoadError Condition :=
  match parameterEntries? (entry.get? "parameters") with
  | none => .error (.misshapenParameters name)
  | some entries => do
    let parameters ← loadParameters name entries
    return ⟨name, (entry.get? "expression").bind Json.str?, parameters⟩

/-- Loads conditions in order. No name may be empty, among `seen` or come twice. -/
def loadConditions : List String → List (String × Json) → Except LoadError (List Condition)
  | _, [] => .ok []
  | seen, (name, entry) :: rest =>
    if name = "" then .error .emptyConditionName
    else if name ∈ seen then .error (.duplicateCondition name)
    else do
      let condition ← loadCondition name entry
      let others ← loadConditions (name :: seen) rest
      return condition :: others

/-- The schema of a document. -/
def Model.ofJson (document : Json) : Except LoadError Model :=
  match document with
  | .obj _ =>
    match (document.get? "type_definitions").bind Json.arr? with
    | none => .error .noTypeDefinitions
    | some entries => do
      let types ← loadTypes 0 [] entries
      let conditions ← loadConditions [] (← conditionEntries (document.get? "conditions"))
      let version := ((document.get? "schema_version").bind Json.str?).getD defaultVersion
      return ⟨version, types, conditions⟩
  | _ => .error .rootNotObject

/-- The schema of a document in JSON text. -/
def Model.read (text : String) : Except LoadError Model :=
  match Json.read text with
  | .error fault => .error (.notJson fault)
  | .ok document => Model.ofJson document.settled

end Rebac.Schema
