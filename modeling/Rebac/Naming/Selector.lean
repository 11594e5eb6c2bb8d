import Rebac.Naming.Canonical

/-! # Relation selectors

A selector is a chain of members leading into the bindings of a type. Only its last member counts:
`perform` then `edit` selects the relation `edit`. -/

namespace Rebac.Naming

/-- One step of a selector. -/
inductive Member where
  /-- A named field, or a group of them. -/
  | named (name : String)
  /-- An element of a group by its place, with the names that the group declares. -/
  | positional (index : Nat) (names : List String)
deriving DecidableEq, Repr

/-- The name a member ends a chain with. A place without a declared name is `item1`, `item2`, …,
counted from one. -/
def Member.name : Member → String
  | .named name => name
  | .positional index names =>
    match names[index]? with
    | some name => name
    | none => "item" ++ toString (index + 1)

/-- The relation a chain selects: the canonical form of its last member's name. An empty chain and
one that ends in an unnamed member select none. -/
def resolve? (chain : List Member) : Option String :=
  match chain.getLast? with
  | none => none
  | some last => if last.name = "" then none else some (canonical last.name)

/-- The relation a chain selects, empty when it selects none. -/
def resolve (chain : List Member) : String := (resolve? chain).getD ""

/-- A way to name a relation. -/
inductive RelationName where
  /-- By a text, which is taken as it is. -/
  | text (name : String)
  /-- By a selector. -/
  | selector (chain : List Member)
deriving DecidableEq, Repr

/-- The relation that is named. -/
def RelationName.relation : RelationName → String
  | .text name => name
  | .selector chain => resolve chain

end Rebac.Naming
