import Rebac.Condition.Context
import Rebac.Json.Record

/-! # Attached conditions

A tuple may carry a condition by name, with the values bound when the tuple is written. -/

namespace Rebac.Condition

/-- A condition with the values bound to it. -/
structure Attached where
  name : String
  context : Context
deriving Repr

namespace Attached

/-- What an attached condition looks like in JSON. -/
def shape : Json.Shape := .record [("name", .free), ("context", .free)]

/-- The record of an attached condition. An empty context is left out. -/
def toJson (c : Attached) : Json :=
  .obj (("name", .str c.name) ::
    if c.context.isEmpty then [] else [("context", c.context.toJson)])

/-- The attached condition a record gives. The context may be left out. -/
def ofRecord? (j : Json) : Option Attached := do
  let f ← j.fields? ["name", "context"]
  return ⟨← f.required? "name" Json.str?, ← f.defaulted? "context" .empty Context.ofJson?⟩

/-- The attached condition in a text. -/
def read? (text : String) : Option Attached := do ofRecord? (← shape.read? text)

/-- Equality, on which the order of values has no bearing. -/
def same (a b : Attached) : Bool := a.name == b.name && a.context.same b.context

end Attached

end Rebac.Condition
