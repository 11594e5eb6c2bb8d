import Rebac.Accessor
import Rebac.Bindings.ConditionPlan
import Rebac.Bindings.Outline
import Rebac.Bindings.SelectorTable
import Rebac.Text.Quoted

/-! # The text of bindings

The text that a schema and a policy determine: a header, each type, and the conditions. Types,
relations and parameters stand in the order of the schema. -/

namespace Rebac.Bindings

open Accessor (Policy)
open Schema (Model ParameterKind)

/-- The type of texts. -/
def stringType : String := "::std::string::String"

/-- The type of members. -/
def memberType : String := "::fluentfga::Member"

/-- The attribute that gives an item its standard abilities. -/
def deriveLine (abilities : String) : Piece := .line ("#[derive(" ++ abilities ++ ")]")

/-- A field and its type. -/
def fieldLine (name type : String) : Piece := .line ("pub " ++ name ++ ": " ++ type ++ ",")

/-- The structure of a type without relations. -/
def markerStruct (p : TypePlan) : List Piece :=
  [.line ("/// Schema type `" ++ p.definition.name ++ "`."),
    deriveLine "Debug, Clone, Copy, Default, PartialEq, Eq, Hash",
    .line ("pub struct " ++ p.identifier ++ ";")]

/-- The field of the computed relations. -/
def Perform.fieldLines (groupName : String) : Perform → List Piece
  | .absent => []
  | .scalar _ => [fieldLine performName stringType]
  | .group _ => [fieldLine performName groupName]

/-- The structure of a type with relations. -/
def resourceStruct (p : TypePlan) (direct : List RelationPlan) (perform : Perform) : List Piece :=
  .line ("/// Schema type `" ++ p.definition.name ++ "`.") ::
    deriveLine "Debug, Clone, Default, PartialEq, Eq, Hash" ::
    block ("pub struct " ++ p.identifier)
      (direct.map (fun r => fieldLine r.field stringType) ++ perform.fieldLines p.groupName)

/-- The structure of a group. -/
def groupStruct (p : TypePlan) (group : List RelationPlan) : List Piece :=
  .line ("/// Computed relations of [`" ++ p.identifier ++ "`].") ::
    deriveLine "Debug, Clone, Default, PartialEq, Eq, Hash" ::
    block ("pub struct " ++ p.groupName) (group.map fun r => fieldLine r.field stringType)

/-- The variant of the computed relations. -/
def Perform.variantLines (groupSelectorName : String) : Perform → List Piece
  | .absent => []
  | .scalar _ => [.line "Perform,"]
  | .group _ => [.line ("Perform(" ++ groupSelectorName ++ "),")]

/-- The selector of a type. -/
def selectorEnum (p : TypePlan) (direct : List RelationPlan) (perform : Perform) : List Piece :=
  .line ("/// Relation selectors for [`" ++ p.identifier ++ "`].") ::
    deriveLine "Debug, Clone, Copy, PartialEq, Eq, Hash" ::
    block ("pub enum " ++ p.selectorName)
      (direct.map (fun r => .line (r.variant ++ ",")) ++
        perform.variantLines p.groupSelectorName)

/-- The selector of a group. -/
def groupEnum (p : TypePlan) (group : List RelationPlan) : List Piece :=
  .line ("/// Selectors for the computed relations of [`" ++ p.identifier ++ "`].") ::
    deriveLine "Debug, Clone, Copy, PartialEq, Eq, Hash" ::
    block ("pub enum " ++ p.groupSelectorName) (group.map fun r => .line (r.variant ++ ","))

/-- Names as quoted elements. -/
def quotedNames (names : List String) : String := ", ".intercalate (names.map Text.quoted)

/-- An element of a chain. -/
def positionalText (index : Nat) (names : String) : String :=
  memberType ++ "::Positional \x7b index: " ++ toString index ++ ", names: " ++ names ++ " \x7d"

/-- A member of a chain. -/
def Step.text : Step → String
  | .named name => memberType ++ "::Named(" ++ Text.quoted name ++ ")"
  | .element index names => positionalText index ("&[" ++ quotedNames names ++ "]")
  | .shared index => positionalText index "Self::ELEMENTS"

/-- The constant of a chain. -/
def ChainEntry.line (e : ChainEntry) : Piece :=
  .line ("const " ++ e.constant ++ ": &'static [" ++ memberType ++ "] = &[" ++
    ", ".intercalate (e.steps.map Step.text) ++ "];")

/-- The shared names of a table. -/
def elementsLine (names : List String) : Piece :=
  .line ("const ELEMENTS: &'static [&'static str] = &[" ++ quotedNames names ++ "];")

/-- The constants of a table. A table without any has no part for them. -/
def SelectorTable.constantParts (t : SelectorTable) : List (List Piece) :=
  let lines := (t.elements.map elementsLine).toList ++ t.constants.map ChainEntry.line
  if lines.isEmpty then [] else [block ("impl " ++ t.owner) lines]

/-- The arm of a variant. -/
def Arm.line (a : Arm) : Piece :=
  .line (match a.target with
    | .constant name => "Self::" ++ a.variant ++ " => Self::" ++ name ++ ","
    | .inner =>
      "Self::" ++ a.variant ++ "(inner) => ::fluentfga::RelationSelector::members(inner),")

/-- The members of each variant. -/
def SelectorTable.membersImpl (t : SelectorTable) : List Piece :=
  block ("impl ::fluentfga::RelationSelector for " ++ t.owner)
    (block ("fn members(&self) -> &'static [" ++ memberType ++ "]")
      (block "match self" (t.arms.map Arm.line)))

/-- The relation name of a selector of a resource. -/
def relationNameImpl (resource selector : String) : List Piece :=
  block ("impl ::fluentfga::RelationName<" ++ resource ++ "> for " ++ selector)
    (block ("fn relation_name(&self) -> " ++ stringType)
      [.line "::fluentfga::RelationSelector::resolve(self)"])

/-- The parts of a resource: its structures and its selectors. -/
def resourceParts (p : TypePlan) (direct : List RelationPlan) (perform : Perform) :
    List (List Piece) :=
  let table := p.selectorTable direct perform
  match perform with
  | .group group =>
    let groupTable := p.groupTable group
    [resourceStruct p direct perform, groupStruct p group, selectorEnum p direct perform,
      groupEnum p group] ++ table.constantParts ++ groupTable.constantParts ++
      [table.membersImpl, groupTable.membersImpl, relationNameImpl p.identifier p.selectorName,
        relationNameImpl p.identifier p.groupSelectorName]
  | _ =>
    [resourceStruct p direct perform, selectorEnum p direct perform] ++ table.constantParts ++
      [table.membersImpl, relationNameImpl p.identifier p.selectorName]

/-- The name by which a type is known at run time. -/
def entityImpl (p : TypePlan) : List Piece :=
  block ("impl ::fluentfga::Entity for " ++ p.identifier)
    [.line ("const NAME: &'static str = " ++ Text.quoted p.entityName ++ ";")]

/-- The line that makes a type a resource. -/
def resourceImpl (p : TypePlan) : List Piece :=
  [.line ("impl ::fluentfga::Resource for " ++ p.identifier ++ " \x7b\x7d")]

/-- The line that makes a type an accessor. -/
def accessorImpl (p : TypePlan) : List Piece :=
  [.line ("impl ::fluentfga::Accessor for " ++ p.identifier ++ " \x7b\x7d")]

/-- The parts of a type that no policy has a bearing on. -/
def TypePlan.parts (p : TypePlan) : List (List Piece) :=
  match p.form with
  | .marker => [markerStruct p, entityImpl p]
  | .resource direct perform => resourceParts p direct perform ++ [entityImpl p, resourceImpl p]

/-- The part of a type that makes it an accessor, where the policy says so. -/
def TypePlan.accessorParts (policy : Policy) (p : TypePlan) : List (List Piece) :=
  if policy.isAccessor p.definition then [accessorImpl p] else []

/-- The type of the argument for a kind. -/
def argumentType : ParameterKind → String
  | .string => "impl ::std::string::ToString"
  | .int => "i64"
  | .bool => "bool"
  | .timestamp => "::fluentfga::chrono::DateTime<::fluentfga::chrono::Utc>"
  | .duration => "::std::time::Duration"

/-- The function that writes a value of a kind. -/
def valueWriter : ParameterKind → String
  | .string => "string"
  | .int => "int"
  | .bool => "boolean"
  | .timestamp => "timestamp"
  | .duration => "duration"

/-- The arguments of a function, with their types. -/
def signature (arguments : List ArgumentPlan) : String :=
  ", ".intercalate (arguments.map fun a => a.argument ++ ": " ++ argumentType a.kind)

/-- The entry of a context that an argument gives. -/
def ArgumentPlan.entryText (a : ArgumentPlan) : String :=
  "(" ++ Text.quoted a.key ++ ", ::fluentfga::condition::" ++ valueWriter a.kind ++ "(" ++
    a.argument ++ "))"

/-- The context that arguments give. -/
def contextText (arguments : List ArgumentPlan) : String :=
  if arguments.isEmpty then "::fluentfga::ConditionContext::new()"
  else "[" ++ ", ".intercalate (arguments.map (·.entryText)) ++ "].into_iter().collect()"

/-- An expression on one line of a comment. -/
def commentText (expression : String) : String :=
  String.ofList (expression.toList.map fun c =>
    if c = '\n' then ' ' else if c = '\x60' then '\'' else c)

/-- The comment above a condition. -/
def ConditionPlan.comment (p : ConditionPlan) : List Piece :=
  .line ("/// Condition `" ++ p.condition.name ++ "`.") ::
    match p.condition.expression with
    | none => []
    | some expression => [.line "///", .line ("/// `" ++ commentText expression ++ "`")]

/-- What the module of a condition holds: its name, and a function for each phase. -/
def ConditionPlan.body (p : ConditionPlan) : List Piece :=
  spaced
    [[.line "/// The condition name as declared in the schema.",
        .line ("pub const NAME: &str = " ++ Text.quoted p.condition.name ++ ";")],
      .line "/// Builds the condition attached to a tuple when it is written." ::
        block ("pub fn build(" ++ signature p.init ++ ") -> ::fluentfga::ConditionInstance")
          [.line ("::fluentfga::ConditionInstance::new(NAME, " ++ contextText p.init ++ ")")],
      .line "/// Builds the context supplied when access is checked." ::
        block ("pub fn check_context(" ++ signature p.provided ++
            ") -> ::fluentfga::ConditionContext")
          [.line (contextText p.provided)]]

/-- The module of a condition. -/
def ConditionPlan.pieces (p : ConditionPlan) : List Piece :=
  p.comment ++ block ("pub mod " ++ p.moduleName) p.body

/-- The module of all conditions. A schema without conditions has none. -/
def conditionParts (plans : List ConditionPlan) : List (List Piece) :=
  if plans.isEmpty then []
  else
    [.line "/// Builders for the conditions declared in the schema." ::
      block "pub mod conditions" (spaced (plans.map ConditionPlan.pieces))]

/-- The lines at the top. -/
def header (version : String) : List Piece :=
  [.line "// @generated by fluentfga-codegen. Do not edit by hand.",
    .line ("// Schema version: " ++ version)]

/-- The plans of a schema. -/
structure Plan where
  version : String
  types : List TypePlan
  conditions : List ConditionPlan
deriving DecidableEq, Repr

/-- The plan of a schema. No policy has a bearing on it. -/
def Plan.of (model : Model) : Except Error Plan := do
  let types ← typePlans [] model.types
  let conditions ← conditionPlans [] model.conditions
  return ⟨model.version, types, conditions⟩

/-- The parts of the text, which stand apart by blank lines. -/
def Plan.parts (policy : Policy) (p : Plan) : List (List Piece) :=
  header p.version ::
    p.types.flatMap (fun t => t.parts ++ t.accessorParts policy) ++ conditionParts p.conditions

/-- The text of a plan. -/
def Plan.source (policy : Policy) (p : Plan) : String := render 0 (spaced (p.parts policy))

/-- The bindings of a schema under a policy. -/
def generate (model : Model) (policy : Policy) : Except Error String :=
  (Plan.of model).map (Plan.source policy)

end Rebac.Bindings
