/-! # Why a schema has no bindings -/

namespace Rebac.Bindings

/-- The scopes of one type in which generated names must differ. -/
inductive Scope where
  | selectorVariant
  | field
  | performVariant
  | performField
deriving DecidableEq, Repr

/-- What the names of a scope are called. -/
def Scope.label : Scope → String
  | .selectorVariant => "selector variant"
  | .field => "field"
  | .performVariant => "perform variant"
  | .performField => "perform field"

/-- A reason that a schema has no bindings. -/
inductive Error where
  | nonCanonicalType (typeName : String)
  | notRelationIdentifier (relation typeName : String)
  | reservedRelation (typeName : String)
  | repeatedName (scope : Scope) (name typeName : String)
  | repeatedItem (item : String)
  | notConditionIdentifier (condition : String)
  | moduleTaken (condition moduleName : String)
  | notParameterIdentifier (condition parameter : String)
  | argumentTaken (condition parameter argument : String)
deriving DecidableEq, Repr

/-- The wording of the reason. -/
def Error.message : Error → String
  | .nonCanonicalType typeName =>
    "type name '" ++ typeName ++ "' is not in canonical snake_case form"
  | .notRelationIdentifier relation typeName =>
    "malformed schema: relation '" ++ relation ++ "' on type '" ++ typeName ++
      "' is not a valid identifier"
  | .reservedRelation typeName =>
    "relation 'perform' on type '" ++ typeName ++ "' collides with the generated perform group"
  | .repeatedName scope name typeName =>
    "malformed schema: " ++ scope.label ++ " '" ++ name ++
      "' would be generated twice for type '" ++ typeName ++ "'"
  | .repeatedItem item =>
    "malformed schema: generated item '" ++ item ++
      "' would be declared by more than one schema type"
  | .notConditionIdentifier condition =>
    "malformed schema: condition '" ++ condition ++ "' is not a valid identifier"
  | .moduleTaken condition moduleName =>
    "malformed schema: condition '" ++ condition ++ "' maps to module '" ++ moduleName ++
      "' which is already taken"
  | .notParameterIdentifier condition parameter =>
    "malformed schema: parameter " ++ condition ++ "." ++ parameter ++
      " is not a valid identifier"
  | .argumentTaken condition parameter argument =>
    "malformed schema: parameter " ++ condition ++ "." ++ parameter ++ " maps to argument '" ++
      argument ++ "' which is already taken"

end Rebac.Bindings
