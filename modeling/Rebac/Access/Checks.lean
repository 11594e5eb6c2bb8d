import Rebac.Access.Failure
import Rebac.Naming.Reference

/-! # Checks

Questions are collected and then answered together, or the first of them alone. As with mutations,
the accessor of the last question is remembered, and a failure keeps everything. -/

namespace Rebac.Access

open Condition (Context)
open Naming (Entity)

/-- Pending questions, in the order of their calls. -/
structure Checks where
  pending : List CheckItem := []
  /-- The user of the last question. -/
  accessor : Option String := none
deriving Repr

/-- The answer to one question. -/
structure CheckOutcome where
  allowed : Bool
  tuple : Tuple
deriving Repr

namespace Checks

/-- Whether nothing is pending. -/
def isEmpty (c : Checks) : Bool := c.pending.isEmpty

/-- Adds a question and remembers its user. -/
def push (c : Checks) (user relation : String) (resource : Entity) (context : Option Context) :
    Checks :=
  { pending := c.pending ++ [⟨resource.reference, relation, user, context⟩]
    accessor := some user }

/-- Asks whether an accessor has a relation on a resource, with the values that conditions need
where they are given. -/
def can (c : Checks) (accessor : Entity) (relation : String) (resource : Entity)
    (context : Option Context) : Checks :=
  c.push accessor.reference relation resource context

/-- Asks about another relation of the accessor of the last question. -/
def continueWith (c : Checks) (call : Continuation) (relation : String) (resource : Entity)
    (context : Option Context) : Except Failure Checks :=
  match c.accessor with
  | some user => .ok (c.push user relation resource context)
  | none => .error (.nobodyRemembered call)

/-- The two wordings of a question, which mean the same. -/
inductive Verb where
  | can
  | has
deriving DecidableEq, Repr

/-- The continuation with a verb, with or without values for conditions. -/
def continuation : Verb → Option Context → Continuation
  | .can, none => .canAlso
  | .can, some _ => .canAlsoWithContext
  | .has, none => .hasAlso
  | .has, some _ => .hasAlsoWithContext

/-- A call that adds a question. -/
inductive Call where
  | ask (verb : Verb) (accessor : Entity) (relation : String) (resource : Entity)
      (context : Option Context)
  | askAlso (verb : Verb) (relation : String) (resource : Entity) (context : Option Context)
deriving Repr

/-- The questions after a call. -/
def apply (c : Checks) : Call → Except Failure Checks
  | .ask _ accessor relation resource context => .ok (c.can accessor relation resource context)
  | .askAlso verb relation resource context =>
    c.continueWith (continuation verb context) relation resource context

/-- No questions, and nobody remembered. -/
def reset : Checks := {}

variable {σ : Type}

/-- The answer to the first question alone. The others are dropped once it is answered. Without
questions the answer is no, and nothing is sent. -/
def validateSingle (c : Checks) (engine : Engine σ) (cancelled : Bool) (s : σ) :
    (Except Failure Bool × Checks) × σ :=
  match c.pending with
  | [] => ((.ok false, c), s)
  | first :: _ =>
    match attempt cancelled (engine.check first) s with
    | (.ok allowed, s) => ((.ok allowed, reset), s)
    | (.error e, s) => ((.error e, c), s)

/-- The answers to all questions, in order, from one batch. The engine must give as many verdicts as
there are questions. -/
def validate (c : Checks) (engine : Engine σ) (cancelled : Bool) (s : σ) :
    (Except Failure (List CheckOutcome) × Checks) × σ :=
  if c.pending.isEmpty then ((.ok [], reset), s)
  else
    match attempt cancelled (engine.checkBatch c.pending) s with
    | (.ok verdicts, s) =>
      if verdicts.length = c.pending.length then
        ((.ok (c.pending.zipWith (fun item allowed => ⟨allowed, item.tuple⟩) verdicts), reset), s)
      else
        ((.error (.engine (.decode (.batchSize c.pending.length verdicts.length))), c), s)
    | (.error e, s) => ((.error e, c), s)

/-- Whether every question is answered yes. -/
def validateAll (c : Checks) (engine : Engine σ) (cancelled : Bool) (s : σ) :
    (Except Failure Bool × Checks) × σ :=
  let ((result, c), s) := c.validate engine cancelled s
  ((result.map (·.all (·.allowed)), c), s)

/-- Whether some question is answered yes. -/
def validateAny (c : Checks) (engine : Engine σ) (cancelled : Bool) (s : σ) :
    (Except Failure Bool × Checks) × σ :=
  let ((result, c), s) := c.validate engine cancelled s
  ((result.map (·.any (·.allowed)), c), s)

end Checks

end Rebac.Access
