import Rebac.Json.Fault

/-! # Why a schema document is refused -/

namespace Rebac.Schema

/-- A reason to refuse a schema document. -/
inductive LoadError where
  | notJson (fault : Json.Fault)
  | rootNotObject
  | noTypeDefinitions
  | typeWithoutName (index : Nat)
  | relationWithoutName (position : Nat) (typeName : String)
  | misshapenRelations (typeName : String)
  | duplicateRelation (typeName relation : String)
  | duplicateType (typeName : String)
  | misshapenConditions
  | conditionWithoutName (index : Nat)
  | emptyConditionName
  | duplicateCondition (condition : String)
  | misshapenParameters (condition : String)
  | parameterWithoutName (condition : String)
  | parameterWithoutType (condition parameter : String)
  | unsupportedParameterType (condition parameter typeName : String)
deriving DecidableEq, Repr

/-- The wording of the reason. -/
def LoadError.message : LoadError → String
  | .notJson fault => "invalid schema JSON: " ++ fault.message
  | .rootNotObject => "malformed schema: schema must be a JSON object"
  | .noTypeDefinitions => "malformed schema: missing 'type_definitions' array"
  | .typeWithoutName index =>
    "malformed schema: type_definitions[" ++ toString index ++ "] has no type name"
  | .relationWithoutName position typeName =>
    "malformed schema: relation " ++ toString position ++ " of type '" ++ typeName ++
      "' has no name"
  | .misshapenRelations typeName =>
    "malformed schema: relations of type '" ++ typeName ++ "' must be an object or an array"
  | .duplicateRelation typeName relation =>
    "duplicate relation '" ++ relation ++ "' on type '" ++ typeName ++ "'"
  | .duplicateType typeName => "duplicate type definition: " ++ typeName
  | .misshapenConditions => "malformed schema: 'conditions' must be an object or an array"
  | .conditionWithoutName index =>
    "malformed schema: conditions[" ++ toString index ++ "] has no name"
  | .emptyConditionName => "malformed schema: condition name cannot be empty"
  | .duplicateCondition condition => "duplicate condition: " ++ condition
  | .misshapenParameters condition =>
    "malformed schema: parameters of condition '" ++ condition ++
      "' must be an object or an array"
  | .parameterWithoutName condition =>
    "malformed schema: a parameter of condition '" ++ condition ++ "' has no name"
  | .parameterWithoutType condition parameter =>
    "malformed schema: parameter " ++ condition ++ "." ++ parameter ++ " has no type"
  | .unsupportedParameterType condition parameter typeName =>
    "unsupported parameter type '" ++ typeName ++ "' for " ++ condition ++ "." ++ parameter

end Rebac.Schema
