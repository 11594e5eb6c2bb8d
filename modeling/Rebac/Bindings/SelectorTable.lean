import Rebac.Bindings.TypePlan
import Rebac.Naming.Selector

/-! # Selector tables

A selector is bound as an enumeration with a table: each variant leads to a constant that holds its
chain of members, or hands over to the selector of the group. -/

namespace Rebac.Bindings

open Naming (Member)

/-- A member as a constant writes it. -/
inductive Step where
  /-- A named member. -/
  | named (name : String)
  /-- An element among names that are written out. -/
  | element (index : Nat) (names : List String)
  /-- An element among the names that the table shares. -/
  | shared (index : Nat)
deriving DecidableEq, Repr

/-- The member a step stands for in a table with these shared names. -/
def Step.member (elements : List String) : Step → Member
  | .named name => .named name
  | .element index names => .positional index names
  | .shared index => .positional index elements

/-- A constant that holds a chain. -/
structure ChainEntry where
  constant : String
  steps : List Step
deriving DecidableEq, Repr

/-- Where a variant leads. -/
inductive Target where
  /-- To the constant of this name. -/
  | constant (name : String)
  /-- To the selector that the variant wraps. -/
  | inner
deriving DecidableEq, Repr

/-- A variant of a selector. -/
structure Arm where
  variant : String
  target : Target
deriving DecidableEq, Repr

/-- The table of a selector. -/
structure SelectorTable where
  /-- The name of the enumeration. -/
  owner : String
  /-- The names that elements share. -/
  elements : Option (List String)
  constants : List ChainEntry
  arms : List Arm
deriving DecidableEq, Repr

namespace SelectorTable

/-- The chain in a constant of the table. -/
def constant? (t : SelectorTable) (name : String) : Option (List Member) :=
  (t.constants.find? (·.constant = name)).map fun entry =>
    entry.steps.map (Step.member (t.elements.getD []))

/-- The chain of a variant that leads to a constant. -/
def chain? (t : SelectorTable) (variant : String) : Option (List Member) :=
  match t.arms.find? (·.variant = variant) with
  | some ⟨_, .constant name⟩ => t.constant? name
  | _ => none

end SelectorTable

/-- The constant of a direct relation. -/
def RelationPlan.entry (r : RelationPlan) : ChainEntry :=
  ⟨chainConstant r.name, [.named r.name]⟩

/-- The variant of a relation that has a constant of its own. -/
def RelationPlan.arm (r : RelationPlan) : Arm := ⟨r.variant, .constant (chainConstant r.name)⟩

/-- The constant for the single computed relation. -/
def Perform.entries : Perform → List ChainEntry
  | .scalar r => [⟨chainConstant performName, [.named performName, .element 0 [r.name]]⟩]
  | .absent | .group _ => []

/-- The variant for the computed relations. -/
def Perform.arms : Perform → List Arm
  | .absent => []
  | .scalar _ => [⟨"Perform", .constant (chainConstant performName)⟩]
  | .group _ => [⟨"Perform", .inner⟩]

/-- The constants of a group from `index` on. -/
def groupEntries : Nat → List RelationPlan → List ChainEntry
  | _, [] => []
  | index, r :: rest =>
    ⟨chainConstant r.name, [.named performName, .shared index]⟩ :: groupEntries (index + 1) rest

/-- The table of the selector of a type. -/
def TypePlan.selectorTable (p : TypePlan) (direct : List RelationPlan) (perform : Perform) :
    SelectorTable :=
  ⟨p.selectorName, none, direct.map (·.entry) ++ perform.entries,
    direct.map (·.arm) ++ perform.arms⟩

/-- The table of the selector of a group. -/
def TypePlan.groupTable (p : TypePlan) (group : List RelationPlan) : SelectorTable :=
  ⟨p.groupSelectorName, some (group.map (·.name)), groupEntries 0 group, group.map (·.arm)⟩

/-- The chain of the selector at a path of variants: one variant of the type's selector, or the
variant of the group and one of its own. -/
def TypePlan.chainAt? (p : TypePlan) (path : List String) : Option (List Member) :=
  match p.form, path with
  | .resource direct perform, [variant] => (p.selectorTable direct perform).chain? variant
  | .resource _ (.group group), ["Perform", variant] => (p.groupTable group).chain? variant
  | _, _ => none

end Rebac.Bindings
