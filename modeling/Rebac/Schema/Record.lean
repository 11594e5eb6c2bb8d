import Rebac.Json.Record
import Rebac.Schema.Basic

/-! # Schemas as records

The written form in which a loaded schema is handed on: a record of records, with every field
written out. -/

namespace Rebac.Schema

/-- The names of the relation kinds. -/
def relationKindNames : List (String × RelationKind) :=
  [("Direct", .direct), ("Computed", .computed)]

/-- The names of the parameter kinds. -/
def parameterKindNames : List (String × ParameterKind) :=
  [("String", .string), ("Int", .int), ("Bool", .bool), ("Timestamp", .timestamp),
    ("Duration", .duration)]

/-- The name of a relation kind. -/
def RelationKind.name : RelationKind → String
  | .direct => "Direct"
  | .computed => "Computed"

/-- The name of a parameter kind. -/
def ParameterKind.name : ParameterKind → String
  | .string => "String"
  | .int => "Int"
  | .bool => "Bool"
  | .timestamp => "Timestamp"
  | .duration => "Duration"

/-- The record of a relation. -/
def Relation.toJson (r : Relation) : Json :=
  .obj [("name", .str r.name), ("kind", .str r.kind.name)]

/-- The relation a record gives. -/
def Relation.ofRecord? (j : Json) : Option Relation := do
  let f ← j.fields? ["name", "kind"]
  return ⟨← f.required? "name" Json.str?, ← f.required? "kind" (Json.choice? relationKindNames)⟩

/-- The record of a type. -/
def TypeDefinition.toJson (t : TypeDefinition) : Json :=
  .obj [("name", .str t.name), ("relations", .arr (t.relations.map Relation.toJson))]

/-- The type a record gives. -/
def TypeDefinition.ofRecord? (j : Json) : Option TypeDefinition := do
  let f ← j.fields? ["name", "relations"]
  return ⟨← f.required? "name" Json.str?,
    ← f.required? "relations" (Json.list? Relation.ofRecord?)⟩

/-- The record of a parameter. -/
def Parameter.toJson (p : Parameter) : Json :=
  .obj [("name", .str p.name), ("kind", .str p.kind.name)]

/-- The parameter a record gives. -/
def Parameter.ofRecord? (j : Json) : Option Parameter := do
  let f ← j.fields? ["name", "kind"]
  return ⟨← f.required? "name" Json.str?, ← f.required? "kind" (Json.choice? parameterKindNames)⟩

/-- The record of a condition. -/
def Condition.toJson (c : Condition) : Json :=
  .obj [("name", .str c.name), ("expression", Json.strOrNull c.expression),
    ("parameters", .arr (c.parameters.map Parameter.toJson))]

/-- The condition a record gives. The expression may be left out. -/
def Condition.ofRecord? (j : Json) : Option Condition := do
  let f ← j.fields? ["name", "expression", "parameters"]
  return ⟨← f.required? "name" Json.str?, ← f.nullable? "expression" Json.str?,
    ← f.required? "parameters" (Json.list? Parameter.ofRecord?)⟩

/-- The record of a schema. -/
def Model.toJson (m : Model) : Json :=
  .obj [("schema_version", .str m.version),
    ("type_definitions", .arr (m.types.map TypeDefinition.toJson)),
    ("conditions", .arr (m.conditions.map Condition.toJson))]

/-- The schema a record gives. The conditions may be left out. -/
def Model.ofRecord? (j : Json) : Option Model := do
  let f ← j.fields? ["schema_version", "type_definitions", "conditions"]
  return ⟨← f.required? "schema_version" Json.str?,
    ← f.required? "type_definitions" (Json.list? TypeDefinition.ofRecord?),
    ← f.defaulted? "conditions" [] (Json.list? Condition.ofRecord?)⟩

end Rebac.Schema
