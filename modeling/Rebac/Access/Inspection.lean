import Rebac.Access.Failure
import Rebac.Naming.Reference

/-! # Inspection

Queries for the objects of an accessor and for the accessors of an object, by one relation or by any
stored tuple. Answers are references. -/

namespace Rebac.Access

open Naming (Entity)

/-- The texts without repeats, each where it first stands. `seen` holds those met before. -/
def distinctFrom : List String → List String → List String
  | _, [] => []
  | seen, x :: rest =>
    if x ∈ seen then distinctFrom seen rest else x :: distinctFrom (x :: seen) rest

/-- The texts without repeats. -/
def distinct (xs : List String) : List String := distinctFrom [] xs

variable {σ : Type} (engine : Engine σ) (cancelled : Bool)

/-- The objects of a type that an accessor has a relation to, directly or by rule. -/
def listObjects (accessor : Entity) (relation resourceType : String) (s : σ) :
    Except Failure (List String) × σ :=
  attempt cancelled
    (engine.listObjects accessor.reference relation (Naming.typeToken resourceType)) s

/-- The objects of a type in stored tuples of an accessor. -/
def listAllObjects (accessor : Entity) (resourceType : String) (s : σ) :
    Except Failure (List String) × σ :=
  let (result, s) := attempt cancelled
    (engine.read ⟨some accessor.reference, some (Naming.typeToken resourceType ++ ":")⟩) s
  (result.map fun tuples => distinct (tuples.map (·.object)), s)

/-- The accessors of a type that have a relation to an object. -/
def listAccessors (object : Entity) (relation accessorType : String) (s : σ) :
    Except Failure (List String) × σ :=
  attempt cancelled
    (engine.listUsers object.reference relation (Naming.typeToken accessorType)) s

/-- The users, of any type, in stored tuples of an object. -/
def listAllAccessors (object : Entity) (s : σ) : Except Failure (List String) × σ :=
  let (result, s) := attempt cancelled (engine.read ⟨none, some object.reference⟩) s
  (result.map fun tuples => distinct (tuples.map (·.user)), s)

end Rebac.Access
