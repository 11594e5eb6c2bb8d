import Rebac.Access.Checks
import Rebac.Access.Inspection
import Rebac.Access.Mutation
import Rebac.Settings.Basic

/-! # Permissions

The way in: an engine and the setting whether mutations are transactional. Every mutation and every
collection of checks made from it starts empty. Groups have members by the relation `member`. -/

namespace Rebac.Access

open Engine (WriteReceipt)
open Naming (Entity)

/-- An engine, by a handle that reaches it, and the setting for new mutations. -/
structure Permissions (ε : Type) where
  handle : ε
  transactional : Bool := true

/-- The permissions that settings describe. -/
def Permissions.ofSettings {ε : Type} (handle : ε) (sending : Settings.Sending) : Permissions ε :=
  ⟨handle, !sending.disableTransactions⟩

/-- Makes new mutations send each tuple on its own. -/
def Permissions.withoutTransactions {ε : Type} (p : Permissions ε) : Permissions ε :=
  { p with transactional := false }

/-- A new mutation. -/
def Permissions.mutate {ε : Type} (p : Permissions ε) : Mutation :=
  if p.transactional then {} else Mutation.withoutTransactions {}

/-- The relation between a group and its members. -/
def memberRelation : String := "member"

variable {σ : Type} (engine : Engine σ) (cancelled : Bool)

/-- Grants one relation on a resource to each of the accessors, in one commit of a new mutation. -/
def grantAll (fresh : Mutation) (accessorType : String) (ids : List String) (relation : String)
    (resource : Entity) (s : σ) : Except Failure WriteReceipt × σ :=
  let changes := fresh.addMany accessorType ids relation resource
  let ((result, _), s) := changes.commit engine cancelled s
  (result, s)

/-- Adds members to a group. -/
def addMembers (fresh : Mutation) (group : Entity) (memberType : String) (ids : List String)
    (s : σ) : Except Failure WriteReceipt × σ :=
  grantAll engine cancelled fresh memberType ids memberRelation group s

/-- The members of a group that are of a type, direct and indirect. -/
def listMembers (group : Entity) (memberType : String) (s : σ) :
    Except Failure (List String) × σ :=
  listAccessors engine cancelled group memberRelation memberType s

end Rebac.Access
