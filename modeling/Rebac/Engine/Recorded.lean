import Rebac.Engine.Basic
import Rebac.Text.Affix

/-! # The recorded engine

An engine in memory that keeps a log of its requests. Checks are answered from a table of allowed
relationships, reads from the stored tuples. The next request can be made to fail, and every request
can be made to hang. -/

namespace Rebac.Engine

/-- A request as the recorded engine logs it. -/
inductive Request where
  | write (request : WriteRequest)
  | check (item : CheckItem)
  | checkBatch (items : List CheckItem)
  | listObjects (user relation objectType : String)
  | listUsers (object relation userType : String)
  | read (filter : ReadFilter)
deriving Repr

/-- The state of the recorded engine. -/
structure Recorded where
  /-- The requests, in order. -/
  requests : List Request := []
  allowed : List Relationship := []
  stored : List Tuple := []
  /-- The status and message with which the next request fails. -/
  failNext : Option (Nat × String) := none
  hanging : Bool := false
deriving Repr

namespace Recorded

/-- Allows a relationship. -/
def allow (r : Relationship) (s : Recorded) : Recorded :=
  if r ∈ s.allowed then s else { s with allowed := s.allowed ++ [r] }

/-- Makes the next request fail. -/
def scriptFailure (status : Nat) (message : String) (s : Recorded) : Recorded :=
  { s with failNext := some (status, message) }

/-- Makes every request hang from now on. -/
def hang (s : Recorded) : Recorded := { s with hanging := true }

/-- The state after a request was logged. A scripted failure is used up even when requests hang. -/
def log (request : Request) (s : Recorded) : Recorded :=
  { s with requests := s.requests ++ [request], failNext := none }

/-- Answers a request: not at all when requests hang, by the scripted failure when there is one, and
else by `answer` from the state after the request was logged. -/
def respond {α : Type} (request : Request) (answer : Recorded → α × Recorded) (s : Recorded) :
    Answer α × Recorded :=
  let logged := s.log request
  if s.hanging then (.pending, logged)
  else
    match s.failNext with
    | some (status, message) => (.failure (.api status "scripted" message), logged)
    | none =>
      let (a, after) := answer logged
      (.value a, after)

/-- The stored tuples after a write: those whose relationship is not deleted, then the new ones. -/
def storedAfter (request : WriteRequest) (stored : List Tuple) : List Tuple :=
  stored.filter (fun t => !(request.deletes.map (·.relationship)).contains t.relationship) ++
    request.writes

/-- Whether the relationship of a check is allowed. -/
def isAllowed (s : Recorded) (item : CheckItem) : Bool := s.allowed.contains item.relationship

/-- Puts a text into an increasing list. -/
def insertSorted (x : String) : List String → List String
  | [] => [x]
  | y :: rest => if x ≤ y then x :: y :: rest else y :: insertSorted x rest

/-- The texts in increasing order. -/
def sorted (xs : List String) : List String := xs.foldr insertSorted []

/-- The objects of a type with an allowed relationship of `user` and `relation`. -/
def allowedObjects (s : Recorded) (user relation objectType : String) : List String :=
  sorted ((s.allowed.filter fun r =>
    r.user = user && r.relation = relation && Text.beginsWith r.object (objectType ++ ":")).map
      (·.object))

/-- The users of a type with an allowed relationship to `object` by `relation`. -/
def allowedUsers (s : Recorded) (object relation userType : String) : List String :=
  sorted ((s.allowed.filter fun r =>
    r.object = object && r.relation = relation && Text.beginsWith r.user (userType ++ ":")).map
      (·.user))

/-- Whether a filter lets a tuple through. An object that ends with a colon stands for every object
that begins with it. -/
def matchesFilter (filter : ReadFilter) (t : Tuple) : Bool :=
  (match filter.user with
    | none => true
    | some user => t.user = user) &&
  (match filter.object with
    | none => true
    | some object =>
      if Text.endsWith object ":" then Text.beginsWith t.object object else t.object = object)

end Recorded

open Recorded in
/-- The recorded engine. -/
def recorded : Engine Recorded where
  write request := respond (.write request) fun s =>
    (⟨request.writes, request.deletes⟩, { s with stored := storedAfter request s.stored })
  check item := respond (.check item) fun s => (s.isAllowed item, s)
  checkBatch items := respond (.checkBatch items) fun s => (items.map s.isAllowed, s)
  listObjects user relation objectType := respond (.listObjects user relation objectType) fun s =>
    (s.allowedObjects user relation objectType, s)
  listUsers object relation userType := respond (.listUsers object relation userType) fun s =>
    (s.allowedUsers object relation userType, s)
  read filter := respond (.read filter) fun s => (s.stored.filter (matchesFilter filter), s)

end Rebac.Engine
