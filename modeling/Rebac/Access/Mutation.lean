import Rebac.Access.Failure
import Rebac.Naming.Reference

/-! # Mutations

A mutation collects grants and revocations, and a commit sends them in one request. It remembers the
accessor of its last grant, so that the next grant can go on with it. A commit that fails keeps
everything, so that it can be tried again. -/

namespace Rebac.Access

open Condition (Attached)
open Engine (WriteRequest WriteReceipt)
open Naming (Entity)

/-- Pending writes and deletes, in the order of their calls. -/
structure Mutation where
  writes : List Tuple := []
  deletes : List Tuple := []
  /-- The user of the last write. -/
  accessor : Option String := none
  transactional : Bool := true
deriving Repr

namespace Mutation

/-- Whether nothing is pending. -/
def isEmpty (m : Mutation) : Bool := m.writes.isEmpty && m.deletes.isEmpty

/-- Sends each tuple on its own. -/
def withoutTransactions (m : Mutation) : Mutation := { m with transactional := false }

/-- Adds a write and remembers its user. -/
def pushWrite (m : Mutation) (user relation : String) (resource : Entity)
    (condition : Option Attached) : Mutation :=
  { m with
    writes := m.writes ++ [⟨user, relation, resource.reference, condition⟩]
    accessor := some user }

/-- Adds a delete. -/
def pushDelete (m : Mutation) (user relation : String) (resource : Entity) : Mutation :=
  { m with deletes := m.deletes ++ [⟨user, relation, resource.reference, none⟩] }

/-- Adds a write for the remembered accessor. -/
def continueWith (m : Mutation) (call : Continuation) (relation : String) (resource : Entity)
    (condition : Option Attached) : Except Failure Mutation :=
  match m.accessor with
  | some user => .ok (m.pushWrite user relation resource condition)
  | none => .error (.nobodyRemembered call)

/-- Grants a relation on a resource to an accessor. -/
def add (m : Mutation) (accessor : Entity) (relation : String) (resource : Entity) : Mutation :=
  m.pushWrite accessor.reference relation resource none

/-- `add` under a condition. -/
def addConditional (m : Mutation) (accessor : Entity) (relation : String) (resource : Entity)
    (condition : Attached) : Mutation :=
  m.pushWrite accessor.reference relation resource (some condition)

/-- Grants another relation to the accessor of the last grant. -/
def addAlso (m : Mutation) (relation : String) (resource : Entity) : Except Failure Mutation :=
  m.continueWith .addAlso relation resource none

/-- `addAlso` under a condition. -/
def addAlsoConditional (m : Mutation) (relation : String) (resource : Entity)
    (condition : Attached) : Except Failure Mutation :=
  m.continueWith .addAlsoConditional relation resource (some condition)

/-- Grants one relation on a resource to each of the accessors. -/
def addMany (m : Mutation) (accessorType : String) (ids : List String) (relation : String)
    (resource : Entity) : Mutation :=
  ids.foldl (fun m id => m.add ⟨accessorType, id⟩ relation resource) m

/-- Revokes a relation on a resource from an accessor. -/
def revoke (m : Mutation) (accessor : Entity) (relation : String) (resource : Entity) : Mutation :=
  m.pushDelete accessor.reference relation resource

/-- Revokes one relation on a resource from each of the accessors. -/
def revokeMany (m : Mutation) (accessorType : String) (ids : List String) (relation : String)
    (resource : Entity) : Mutation :=
  ids.foldl (fun m id => m.revoke ⟨accessorType, id⟩ relation resource) m

/-- Relates one resource, the grouping, to another. -/
def assign (m : Mutation) (grouping : Entity) (relation : String) (target : Entity) : Mutation :=
  m.pushWrite grouping.reference relation target none

/-- `assign` under a condition. -/
def assignConditional (m : Mutation) (grouping : Entity) (relation : String) (target : Entity)
    (condition : Attached) : Mutation :=
  m.pushWrite grouping.reference relation target (some condition)

/-- Relates the grouping of the last grant to another resource. -/
def assignAlso (m : Mutation) (relation : String) (target : Entity) : Except Failure Mutation :=
  m.continueWith .assignAlso relation target none

/-- A call that adds to a mutation. -/
inductive Call where
  | add (accessor : Entity) (relation : String) (resource : Entity)
  | addConditional (accessor : Entity) (relation : String) (resource : Entity)
      (condition : Attached)
  | addAlso (relation : String) (resource : Entity)
  | addAlsoConditional (relation : String) (resource : Entity) (condition : Attached)
  | addMany (accessorType : String) (ids : List String) (relation : String) (resource : Entity)
  | revoke (accessor : Entity) (relation : String) (resource : Entity)
  | revokeMany (accessorType : String) (ids : List String) (relation : String) (resource : Entity)
  | assign (grouping : Entity) (relation : String) (target : Entity)
  | assignConditional (grouping : Entity) (relation : String) (target : Entity)
      (condition : Attached)
  | assignAlso (relation : String) (target : Entity)
deriving Repr

/-- The mutation after a call. -/
def apply (m : Mutation) : Call → Except Failure Mutation
  | .add accessor relation resource => .ok (m.add accessor relation resource)
  | .addConditional accessor relation resource condition =>
    .ok (m.addConditional accessor relation resource condition)
  | .addAlso relation resource => m.addAlso relation resource
  | .addAlsoConditional relation resource condition =>
    m.addAlsoConditional relation resource condition
  | .addMany accessorType ids relation resource =>
    .ok (m.addMany accessorType ids relation resource)
  | .revoke accessor relation resource => .ok (m.revoke accessor relation resource)
  | .revokeMany accessorType ids relation resource =>
    .ok (m.revokeMany accessorType ids relation resource)
  | .assign grouping relation target => .ok (m.assign grouping relation target)
  | .assignConditional grouping relation target condition =>
    .ok (m.assignConditional grouping relation target condition)
  | .assignAlso relation target => m.assignAlso relation target

/-- The request that a commit sends. -/
def request (m : Mutation) : WriteRequest := ⟨m.writes, m.deletes, m.transactional⟩

/-- The mutation with nothing pending and nobody remembered. -/
def reset (m : Mutation) : Mutation := { m with writes := [], deletes := [], accessor := none }

/-- Sends what is pending. On success nothing stays pending; otherwise the mutation stays as it
is. -/
def commit {σ : Type} (m : Mutation) (engine : Engine σ) (cancelled : Bool) (s : σ) :
    (Except Failure WriteReceipt × Mutation) × σ :=
  if m.isEmpty then ((.error .nothingPending, m), s)
  else
    match attempt cancelled (engine.write m.request) s with
    | (.ok receipt, s) => ((.ok receipt, m.reset), s)
    | (.error e, s) => ((.error e, m), s)

end Mutation

end Rebac.Access
