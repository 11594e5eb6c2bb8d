import Rebac.Schema.Basic

/-! # Accessor policies

Every type with relations is a resource. Whether it can also be the accessor of a relation is not in
the schema, so a policy decides: a list of ends of names, and a set of types. -/

namespace Rebac.Accessor

/-- A policy: ends of canonical type names, and canonical type names in increasing order. -/
structure Policy where
  tails : List String
  types : List String
deriving DecidableEq, Repr

/-- The ends of names that the default policy has. -/
def defaultTails : List String := ["user", "group", "team", "org", "organization"]

/-- Puts `name` into its place in an increasing list, once. -/
def insertName (name : String) : List String → List String
  | [] => [name]
  | n :: rest =>
    if name < n then name :: n :: rest
    else if name = n then n :: rest
    else n :: insertName name rest

namespace Policy

/-- The policy under which only types without relations are accessors. -/
def none : Policy := ⟨[], []⟩

/-- The policy with the default ends of names. -/
def standard : Policy := ⟨defaultTails, []⟩

/-- Adds an end of names, unless it is empty or already there. -/
def withTail (p : Policy) (tail : String) : Policy :=
  let tail := Naming.canonical tail
  if tail = "" ∨ tail ∈ p.tails then p else ⟨p.tails ++ [tail], p.types⟩

/-- Adds a type. -/
def withType (p : Policy) (typeName : String) : Policy :=
  ⟨p.tails, insertName (Naming.canonical typeName) p.types⟩

/-- Adds ends of names and then types. -/
def withAll (p : Policy) (tails types : List String) : Policy :=
  types.foldl withType (tails.foldl withTail p)

/-- Whether a type is an accessor. A type without relations always is, as it can only be the user
of a tuple. -/
def isAccessor (p : Policy) (t : Schema.TypeDefinition) : Bool :=
  !t.hasRelations ||
    (let name := Naming.canonical t.name
    name ∈ p.types || p.tails.any (Text.endsWith name))

end Policy

end Rebac.Accessor
