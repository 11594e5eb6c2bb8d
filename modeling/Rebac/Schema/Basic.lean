import Rebac.Naming.Canonical
import Rebac.Text.Affix

/-! # Authorization schemas

A schema has types with relations, and conditions with parameters. Relations are assigned by
writing a tuple or computed by rule; a parameter is bound when a tuple is written or supplied when
access is checked, as the end of its name says. -/

namespace Rebac.Schema

/-- How a relation gets its members. -/
inductive RelationKind where
  /-- By writing a tuple. -/
  | direct
  /-- By a rule over other relations. -/
  | computed
deriving DecidableEq, Repr

/-- A relation, under its canonical name. -/
structure Relation where
  name : String
  kind : RelationKind
deriving DecidableEq, Repr

/-- The relation that a document calls `name`. -/
def Relation.named (name : String) (kind : RelationKind) : Relation :=
  ⟨Naming.canonical name, kind⟩

/-- A type, with its relations in order. -/
structure TypeDefinition where
  name : String
  relations : List Relation
deriving DecidableEq, Repr

namespace TypeDefinition

/-- The relation of any spelling of `name`. -/
def relation? (t : TypeDefinition) (name : String) : Option Relation :=
  t.relations.find? (·.name = Naming.canonical name)

/-- Whether the type has relations at all. -/
def hasRelations (t : TypeDefinition) : Bool := !t.relations.isEmpty

/-- The relations assigned by tuples, in order. -/
def direct (t : TypeDefinition) : List Relation := t.relations.filter (·.kind = .direct)

/-- The relations computed by rules, in order. -/
def computed (t : TypeDefinition) : List Relation := t.relations.filter (·.kind = .computed)

end TypeDefinition

/-- What values a parameter takes. -/
inductive ParameterKind where
  | string
  | int
  | bool
  | timestamp
  | duration
deriving DecidableEq, Repr

/-- What a type name of a document means for a parameter. -/
inductive KindMapping where
  /-- One of the kinds. -/
  | exact (kind : ParameterKind)
  /-- A scalar without a kind of its own, taken as a string. -/
  | fallback
  /-- A collection, which no parameter can hold. -/
  | unsupported
deriving DecidableEq, Repr

/-- The meaning of a type name, in its long form `TYPE_NAME_INT` or its short form `int`, in any
case of its ASCII letters. -/
def KindMapping.ofTypeName (typeName : String) : KindMapping :=
  match Text.asciiLower ((Text.afterLead? typeName "TYPE_NAME_").getD typeName) with
  | "string" => .exact .string
  | "int" | "uint" => .exact .int
  | "bool" => .exact .bool
  | "timestamp" => .exact .timestamp
  | "duration" => .exact .duration
  | "list" | "map" => .unsupported
  | _ => .fallback

/-- When a parameter gets its value. -/
inductive Phase where
  /-- When the tuple is written. -/
  | init
  /-- When access is checked. -/
  | provided
deriving DecidableEq, Repr

/-- The end of the name of a parameter bound when the tuple is written. -/
def initTail : String := "_init"

/-- The end of the name of a parameter supplied when access is checked. -/
def providedTail : String := "_provided"

/-- A parameter of a condition, under its declared name. -/
structure Parameter where
  name : String
  kind : ParameterKind
deriving DecidableEq, Repr

namespace Parameter

/-- When the parameter gets its value. A name with neither end means when the tuple is written. -/
def phase (p : Parameter) : Phase :=
  if Text.endsWith p.name providedTail then .provided else .init

/-- The name without the end that tells the phase. A name that is nothing else stays whole. -/
def displayName (p : Parameter) : String :=
  let stripped? := (Text.beforeTail? p.name providedTail).or (Text.beforeTail? p.name initTail)
  match stripped? with
  | some stripped => if stripped = "" then p.name else stripped
  | none => p.name

/-- Whether the name tells the phase. -/
def hasPhaseTail (p : Parameter) : Bool :=
  Text.endsWith p.name initTail || Text.endsWith p.name providedTail

end Parameter

/-- A condition that a tuple may carry, with its parameters in order. -/
structure Condition where
  name : String
  expression : Option String
  parameters : List Parameter
deriving DecidableEq, Repr

namespace Condition

/-- The parameters bound when a tuple is written, in order. -/
def initParameters (c : Condition) : List Parameter := c.parameters.filter (·.phase = .init)

/-- The parameters supplied when access is checked, in order. -/
def providedParameters (c : Condition) : List Parameter :=
  c.parameters.filter (·.phase = .provided)

end Condition

/-- A schema, with its types and conditions in order. -/
structure Model where
  version : String
  types : List TypeDefinition
  conditions : List Condition
deriving DecidableEq, Repr

namespace Model

/-- The type named `name`. -/
def type? (m : Model) (name : String) : Option TypeDefinition := m.types.find? (·.name = name)

/-- The condition named `name`. -/
def condition? (m : Model) (name : String) : Option Condition :=
  m.conditions.find? (·.name = name)

end Model

end Rebac.Schema
