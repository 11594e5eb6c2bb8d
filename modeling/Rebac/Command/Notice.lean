import Rebac.Accessor
import Rebac.Command.Level
import Rebac.Schema.Document

/-! # Notices

What a run tells about its work on the way, in order. -/

namespace Rebac.Command

open Schema (Model Parameter KindMapping)

/-- A notice. -/
inductive Notice where
  /-- A parameter has a type without a kind of its own. -/
  | fallbackKind (condition parameter typeName : String)
  /-- The name of a parameter does not tell its phase. -/
  | unphased (condition parameter : String)
  | loaded (version : String) (types conditions : Nat)
  | emitting (typeName : String) (accessor : Bool)
  | generated (types conditions : Nat)
  | written (path : String)
deriving DecidableEq, Repr

namespace Notice

/-- How much the notice matters. -/
def level : Notice → Level
  | .fallbackKind _ _ _ => .warn
  | .unphased _ _ | .loaded _ _ _ | .emitting _ _ => .debug
  | .generated _ _ | .written _ => .info

/-- The name of the source of the notice. -/
def source : Notice → String
  | .fallbackKind _ _ _ | .unphased _ _ | .loaded _ _ _ => "fluentfga_schema::model::loader"
  | .emitting _ _ | .generated _ _ => "fluentfga_codegen::generator"
  | .written _ => "fluentfga_codegen"

/-- The text of the notice. -/
def message : Notice → String
  | .fallbackKind _ _ _ => "No dedicated kind for parameter type; serializing as string"
  | .unphased _ _ => "Parameter has no phase suffix; binding it at grant time"
  | .loaded _ _ _ => "Loaded authorization schema"
  | .emitting _ _ => "Emitting entity type"
  | .generated _ _ => "Generated entity types"
  | .written _ => "Wrote generated entities"

/-- The values that the notice carries. -/
def values : Notice → List (String × Json)
  | .fallbackKind condition parameter typeName =>
    [("condition", .str condition), ("parameter", .str parameter), ("type_name", .str typeName)]
  | .unphased condition parameter =>
    [("condition", .str condition), ("parameter", .str parameter)]
  | .loaded version types conditions =>
    [("schema_version", .str version), ("types", .int types), ("conditions", .int conditions)]
  | .emitting typeName accessor => [("type_name", .str typeName), ("accessor", .bool accessor)]
  | .generated types conditions => [("types", .int types), ("conditions", .int conditions)]
  | .written path => [("out", .str path)]

/-- The names of what the notice carries, its text among them. -/
def fieldNames (n : Notice) : List String := "message" :: n.values.map (·.1)

/-- The text and the values as one object. -/
def fields (n : Notice) : Json := .obj (("message", .str n.message) :: n.values)

end Notice

/-- The notices on one parameter. -/
def parameterNotices (condition : String) (p : Parameter) (typeName : String) : List Notice :=
  (if KindMapping.ofTypeName typeName = .fallback then [.fallbackKind condition p.name typeName]
    else []) ++
  if p.hasPhaseTail then [] else [.unphased condition p.name]

/-- The notices on the parameters of a condition, up to the first that cannot be loaded. -/
def parametersNotices (condition : String) : List (Option String × Option Json) → List Notice
  | [] => []
  | entry :: rest =>
    match Schema.loadParameter condition entry with
    | .error _ => []
    | .ok p =>
      parameterNotices condition p (((entry.2.bind Json.str?)).getD "") ++
        parametersNotices condition rest

/-- The notices on conditions, up to the first that cannot be loaded. -/
def conditionsNotices : List String → List (String × Json) → List Notice
  | _, [] => []
  | seen, (name, entry) :: rest =>
    if name = "" ∨ name ∈ seen then []
    else
      parametersNotices name ((Schema.parameterEntries? (entry.get? "parameters")).getD []) ++
        match Schema.loadCondition name entry with
        | .error _ => []
        | .ok _ => conditionsNotices (name :: seen) rest

/-- The notices on loading a document, up to its first fault. -/
def loadNotices (document : Json) : List Notice :=
  let entries := ((document.get? "type_definitions").bind Json.arr?).map (Schema.loadTypes 0 [])
  let conditions := match entries, Schema.conditionEntries (document.get? "conditions") with
    | some (.ok _), .ok entries => conditionsNotices [] entries
    | _, _ => []
  conditions ++ match Model.ofJson document with
    | .ok m => [.loaded m.version m.types.length m.conditions.length]
    | .error _ => []

/-- The notices on generating the bindings of a schema under a policy. -/
def generationNotices (m : Model) (policy : Accessor.Policy) : List Notice :=
  m.types.map (fun t => .emitting t.name (policy.isAccessor t)) ++
    [.generated m.types.length m.conditions.length]

end Rebac.Command
