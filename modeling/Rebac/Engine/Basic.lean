import Rebac.Engine.Error
import Rebac.Tuple

/-! # Engines

An engine stores tuples and answers questions about relationships. It is a family of functions on
its own state, so that a statement about every engine is a statement about all such families. -/

namespace Rebac

namespace Engine

/-- A request to write and delete tuples. -/
structure WriteRequest where
  writes : List Tuple
  deletes : List Tuple
  /-- Whether all changes are one change. Otherwise each tuple is changed on its own, writes before
  deletes. -/
  transactional : Bool
deriving Repr

/-- Whether a request changes nothing. -/
def WriteRequest.isEmpty (r : WriteRequest) : Bool := r.writes.isEmpty && r.deletes.isEmpty

/-- The tuples that were written and deleted. -/
structure WriteReceipt where
  written : List Tuple
  deleted : List Tuple
deriving Repr

/-- Which tuples to read: of a user, and of an object or of every object whose reference begins with
a type and a colon. -/
structure ReadFilter where
  user : Option String
  object : Option String
deriving DecidableEq, Repr

/-- What comes of a call to an engine. -/
inductive Answer (α : Type) where
  | value (a : α)
  | failure (e : Error)
  /-- Nothing, until the caller gives up. -/
  | pending
deriving Repr

/-- The answer as a value or a failure. -/
def Answer.ofExcept {α : Type} : Except Error α → Answer α
  | .ok a => .value a
  | .error e => .failure e

end Engine

open Engine in
/-- An engine with states `σ`. -/
structure Engine (σ : Type) where
  write : WriteRequest → σ → Answer WriteReceipt × σ
  check : CheckItem → σ → Answer Bool × σ
  /-- The verdicts on a batch of checks, in order. -/
  checkBatch : List CheckItem → σ → Answer (List Bool) × σ
  /-- The objects of a type that a user has a relation to. -/
  listObjects : (user relation objectType : String) → σ → Answer (List String) × σ
  /-- The users of a type that have a relation to an object. -/
  listUsers : (object relation userType : String) → σ → Answer (List String) × σ
  /-- The stored tuples that a filter lets through. -/
  read : ReadFilter → σ → Answer (List Tuple) × σ

end Rebac
