import Rebac.Condition.Attached

/-! # Tuples

A tuple says that a user has a relation to an object, perhaps under a condition. Users and objects
are references. -/

namespace Rebac

open Condition (Attached Context)

/-- Who has what relation to what. -/
structure Relationship where
  object : String
  relation : String
  user : String
deriving DecidableEq, Repr

/-- A relationship as it is stored. -/
structure Tuple where
  user : String
  relation : String
  object : String
  condition : Option Attached
deriving Repr

namespace Tuple

/-- The relationship of a tuple, whatever its condition. -/
def relationship (t : Tuple) : Relationship := ⟨t.object, t.relation, t.user⟩

/-- The tuple without its condition. -/
def stripped (t : Tuple) : Tuple := { t with condition := none }

/-- The tuple of a relationship without condition. -/
def ofRelationship (r : Relationship) : Tuple := ⟨r.user, r.relation, r.object, none⟩

/-- A tuple on one line, with the name of its condition. -/
def display (t : Tuple) : String :=
  t.object ++ "#" ++ t.relation ++ "@" ++ t.user ++
    match t.condition with
    | some c => " [" ++ c.name ++ "]"
    | none => ""

/-- What a tuple looks like in JSON. -/
def shape : Json.Shape :=
  .record [("user", .free), ("relation", .free), ("object", .free),
    ("condition", Attached.shape)]

/-- The record of a tuple. A missing condition is left out. -/
def toJson (t : Tuple) : Json :=
  .obj ([("user", .str t.user), ("relation", .str t.relation), ("object", .str t.object)] ++
    match t.condition with
    | some c => [("condition", c.toJson)]
    | none => [])

/-- The tuple a record gives. The condition may be null or left out. -/
def ofRecord? (j : Json) : Option Tuple := do
  let f ← j.fields? ["user", "relation", "object", "condition"]
  return ⟨← f.required? "user" Json.str?, ← f.required? "relation" Json.str?,
    ← f.required? "object" Json.str?, ← f.nullable? "condition" Attached.ofRecord?⟩

/-- The tuple in a text. -/
def read? (text : String) : Option Tuple := do ofRecord? (← shape.read? text)

/-- Equality, on which the order of a condition's values has no bearing. -/
def same (a b : Tuple) : Bool :=
  a.relationship == b.relationship &&
    match a.condition, b.condition with
    | none, none => true
    | some c, some d => c.same d
    | _, _ => false

end Tuple

/-- A question whether a relationship holds, with the values supplied for conditions. -/
structure CheckItem where
  object : String
  relation : String
  user : String
  context : Option Context
deriving Repr

namespace CheckItem

/-- The relationship asked about. -/
def relationship (c : CheckItem) : Relationship := ⟨c.object, c.relation, c.user⟩

/-- The tuple asked about. -/
def tuple (c : CheckItem) : Tuple := .ofRelationship c.relationship

/-- The question about a relationship. -/
def ofRelationship (r : Relationship) (context : Option Context) : CheckItem :=
  ⟨r.object, r.relation, r.user, context⟩

end CheckItem

end Rebac
