import Rebac.Json.Basic

/-! # Contexts

The values of a condition's parameters, by declared name. A context keeps the order in which names
were first set, and the value that was last set. -/

namespace Rebac.Condition

/-- Values by name, in the order in which the names were first set. -/
structure Context where
  entries : List (String × Json)
  nodup : (Keyed.keys entries).Nodup
deriving Repr

namespace Context

/-- No values. -/
def empty : Context := ⟨[], by simp [Keyed.keys]⟩

/-- Sets a value. -/
def insert (c : Context) (name : String) (value : Json) : Context :=
  ⟨Keyed.put c.entries name value, Keyed.nodup_keys_put c.nodup name value⟩

/-- Sets values in turn. -/
def extend (c : Context) (values : List (String × Json)) : Context :=
  ⟨Keyed.putAll c.entries values, Keyed.nodup_keys_putAll c.nodup values⟩

/-- Sets the values of another context. -/
def merge (c other : Context) : Context := c.extend other.entries

/-- The context of values set in turn. -/
def ofList (values : List (String × Json)) : Context := empty.extend values

/-- The value of a name. -/
def get? (c : Context) (name : String) : Option Json := Keyed.find? c.entries name

/-- How many names have values. -/
def size (c : Context) : Nat := c.entries.length

/-- Whether no name has a value. -/
def isEmpty (c : Context) : Bool := c.entries.isEmpty

/-- The context as an object. -/
def toJson (c : Context) : Json := .obj c.entries

/-- The context that an object gives. -/
def ofJson? : Json → Option Context
  | .obj members => some (ofList members)
  | _ => none

/-- Equality of contexts, on which order has no bearing. -/
def same (a b : Context) : Bool := a.toJson.same b.toJson

end Context

end Rebac.Condition
