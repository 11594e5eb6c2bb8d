import Rebac.Access.Permissions

/-! # Sessions

A session is a run of calls over one engine: named mutations and checks, queries, and calls to the
engine itself. A name met for the first time stands for a new mutation or for new checks. Each
mutation and each collection of checks keeps the handle it was made with. -/

namespace Rebac.Access

open Engine (WriteRequest WriteReceipt ReadFilter)
open Naming (Entity)

/-- A run over an engine with states `σ`, reached by handles `ε`. -/
structure Session (ε σ : Type) where
  /-- The engine that a handle reaches. -/
  engine : ε → Engine σ
  permissions : Permissions ε
  state : σ
  mutations : List (String × (ε × Mutation)) := []
  checks : List (String × (ε × Checks)) := []

/-- A query about relationships. -/
inductive Query where
  | objects (accessor : Entity) (relation resourceType : String)
  | allObjects (accessor : Entity) (resourceType : String)
  | accessors (object : Entity) (relation accessorType : String)
  | allAccessors (object : Entity)
  | members (group : Entity) (memberType : String)
deriving Repr

/-- A call to the engine without any builder. -/
inductive Direct where
  | write (request : WriteRequest)
  | check (item : CheckItem)
  | checkBatch (items : List CheckItem)
  | listObjects (user relation objectType : String)
  | listUsers (object relation userType : String)
  | read (filter : ReadFilter)
deriving Repr

/-- How checks are answered. -/
inductive Validation where
  | single
  | each
  | all
  | any
deriving DecidableEq, Repr

/-- A call of a session. Those that reach the engine may be cancelled beforehand. -/
inductive Step where
  /-- Replaces a mutation by a new one. -/
  | newMutation (name : String) (transactional : Bool)
  | mutate (name : String) (call : Mutation.Call)
  | commit (name : String) (cancelled : Bool)
  /-- Replaces checks by new ones. -/
  | newChecks (name : String)
  | ask (name : String) (call : Checks.Call)
  | validate (name : String) (how : Validation) (cancelled : Bool)
  | query (query : Query) (cancelled : Bool)
  | addMembers (group : Entity) (memberType : String) (ids : List String) (cancelled : Bool)
  | addUsers (resource : Entity) (relation accessorType : String) (ids : List String)
      (cancelled : Bool)
  | direct (call : Direct) (cancelled : Bool)
  | withoutTransactions
deriving Repr

/-- What a call gives. -/
inductive Result where
  | done
  | receipt (receipt : WriteReceipt)
  | verdict (allowed : Bool)
  | verdicts (allowed : List Bool)
  | outcomes (outcomes : List CheckOutcome)
  | references (references : List String)
  | tuples (tuples : List Tuple)
deriving Repr

namespace Session

variable {ε σ : Type}

/-- The mutation of a name, with its handle. -/
def mutation (s : Session ε σ) (name : String) : ε × Mutation :=
  (Keyed.find? s.mutations name).getD (s.permissions.handle, s.permissions.mutate)

/-- The checks of a name, with their handle. -/
def checksOf (s : Session ε σ) (name : String) : ε × Checks :=
  (Keyed.find? s.checks name).getD (s.permissions.handle, {})

/-- The session with another mutation of a name. -/
def putMutation (s : Session ε σ) (name : String) (m : ε × Mutation) : Session ε σ :=
  { s with mutations := Keyed.put s.mutations name m }

/-- The session with other checks of a name. -/
def putChecks (s : Session ε σ) (name : String) (c : ε × Checks) : Session ε σ :=
  { s with checks := Keyed.put s.checks name c }

/-- The engine of the permissions. -/
def current (s : Session ε σ) : Engine σ := s.engine s.permissions.handle

/-- The session after a call that changed nothing but the state of the engine. -/
def finish {α : Type} (s : Session ε σ) (give : α → Result) (answer : Except Failure α × σ) :
    Except Failure Result × Session ε σ :=
  (answer.1.map give, { s with state := answer.2 })

/-- Answers the checks of a name. -/
def runValidation (s : Session ε σ) (name : String) (how : Validation) (cancelled : Bool) :
    Except Failure Result × Session ε σ :=
  let (handle, c) := s.checksOf name
  let engine := s.engine handle
  let close {α : Type} (give : α → Result) (answer : (Except Failure α × Checks) × σ) :=
    (s.putChecks name (handle, answer.1.2)).finish give (answer.1.1, answer.2)
  match how with
  | .single => close .verdict (c.validateSingle engine cancelled s.state)
  | .each => close .outcomes (c.validate engine cancelled s.state)
  | .all => close .verdict (c.validateAll engine cancelled s.state)
  | .any => close .verdict (c.validateAny engine cancelled s.state)

/-- Answers a query. -/
def runQuery (s : Session ε σ) (query : Query) (cancelled : Bool) :
    Except Failure Result × Session ε σ :=
  s.finish .references <| match query with
    | .objects accessor relation resourceType =>
      listObjects s.current cancelled accessor relation resourceType s.state
    | .allObjects accessor resourceType =>
      listAllObjects s.current cancelled accessor resourceType s.state
    | .accessors object relation accessorType =>
      listAccessors s.current cancelled object relation accessorType s.state
    | .allAccessors object => listAllAccessors s.current cancelled object s.state
    | .members group memberType => listMembers s.current cancelled group memberType s.state

/-- Calls the engine itself. -/
def runDirect (s : Session ε σ) (call : Direct) (cancelled : Bool) :
    Except Failure Result × Session ε σ :=
  let engine := s.current
  match call with
  | .write request => s.finish .receipt (attempt cancelled (engine.write request) s.state)
  | .check item => s.finish .verdict (attempt cancelled (engine.check item) s.state)
  | .checkBatch items => s.finish .verdicts (attempt cancelled (engine.checkBatch items) s.state)
  | .listObjects user relation objectType =>
    s.finish .references
      (attempt cancelled (engine.listObjects user relation objectType) s.state)
  | .listUsers object relation userType =>
    s.finish .references (attempt cancelled (engine.listUsers object relation userType) s.state)
  | .read filter => s.finish .tuples (attempt cancelled (engine.read filter) s.state)

/-- Runs one call. -/
def step (s : Session ε σ) : Step → Except Failure Result × Session ε σ
  | .newMutation name transactional =>
    let fresh := s.permissions.mutate
    let fresh := if transactional then fresh else fresh.withoutTransactions
    (.ok .done, s.putMutation name (s.permissions.handle, fresh))
  | .mutate name call =>
    let (handle, m) := s.mutation name
    match m.apply call with
    | .ok m => (.ok .done, s.putMutation name (handle, m))
    | .error e => (.error e, s.putMutation name (handle, m))
  | .commit name cancelled =>
    let (handle, m) := s.mutation name
    let ((result, m), state) := m.commit (s.engine handle) cancelled s.state
    (s.putMutation name (handle, m)).finish .receipt (result, state)
  | .newChecks name => (.ok .done, s.putChecks name (s.permissions.handle, {}))
  | .ask name call =>
    let (handle, c) := s.checksOf name
    match c.apply call with
    | .ok c => (.ok .done, s.putChecks name (handle, c))
    | .error e => (.error e, s.putChecks name (handle, c))
  | .validate name how cancelled => s.runValidation name how cancelled
  | .query query cancelled => s.runQuery query cancelled
  | .addMembers group memberType ids cancelled =>
    s.finish .receipt
      (Access.addMembers s.current cancelled s.permissions.mutate group memberType ids s.state)
  | .addUsers resource relation accessorType ids cancelled =>
    s.finish .receipt
      (grantAll s.current cancelled s.permissions.mutate accessorType ids relation resource s.state)
  | .direct call cancelled => s.runDirect call cancelled
  | .withoutTransactions =>
    (.ok .done, { s with permissions := s.permissions.withoutTransactions })

end Session

end Rebac.Access
