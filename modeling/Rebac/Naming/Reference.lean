import Rebac.Naming.Canonical

/-! # References

An entity is referred to as `type:id`, with its type in canonical form. Only the first colon
divides a reference, so an id may hold any characters. -/

namespace Rebac.Naming

/-- The reference to the entity `id` of a type. -/
def qualify (typeName id : String) : String := canonical typeName ++ ":" ++ id

/-- An entity: a name of its type in any spelling, and an id. -/
structure Entity where
  typeName : String
  id : String
deriving DecidableEq, Repr

/-- The reference to an entity. -/
def Entity.reference (e : Entity) : String := qualify e.typeName e.id

/-- The token by which queries name a whole type. -/
def typeToken (typeName : String) : String := canonical typeName

/-- The characters before and after the first colon. -/
def splitAtColon : List Char → Option (List Char × List Char)
  | [] => none
  | c :: rest =>
    if c = ':' then some ([], rest)
    else (splitAtColon rest).map fun (before, after) => (c :: before, after)

/-- The type and the id of a reference. Neither may be empty. -/
def splitReference (reference : String) : Option (String × String) :=
  match splitAtColon reference.toList with
  | some (c :: before, d :: after) => some (String.ofList (c :: before), String.ofList (d :: after))
  | _ => none

end Rebac.Naming
