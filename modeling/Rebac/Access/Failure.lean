import Rebac.Engine.Basic

/-! # Failures of access calls

A call fails when it comes in the wrong order, when the engine fails, or when it is cancelled. -/

namespace Rebac.Access

/-- A call that goes on with the accessor of an earlier one. -/
inductive Continuation where
  | addAlso
  | addAlsoConditional
  | assignAlso
  | canAlso
  | canAlsoWithContext
  | hasAlso
  | hasAlsoWithContext
deriving DecidableEq, Repr

/-- The name of a continuation. -/
def Continuation.label : Continuation → String
  | .addAlso => "add_also"
  | .addAlsoConditional => "add_also_conditional"
  | .assignAlso => "assign_also"
  | .canAlso => "can_also"
  | .canAlsoWithContext => "can_also_with_context"
  | .hasAlso => "has_also"
  | .hasAlsoWithContext => "has_also_with_context"

/-- The calls that a continuation goes on from. -/
def Continuation.antecedent : Continuation → String
  | .addAlso | .addAlsoConditional | .assignAlso => "add or assign"
  | .canAlso | .canAlsoWithContext | .hasAlso | .hasAlsoWithContext => "can or has"

/-- Why a call failed. -/
inductive Failure where
  /-- A continuation without an accessor to go on with. -/
  | nobodyRemembered (call : Continuation)
  /-- A commit of nothing. -/
  | nothingPending
  /-- The engine failed. -/
  | engine (e : Engine.Error)
  | cancelled
deriving DecidableEq, Repr

/-- The wording of a failure. An engine's failure has its own. -/
def Failure.message : Failure → String
  | .nobodyRemembered call =>
    "invalid operation sequence: " ++ call.label ++ " requires a previous " ++ call.antecedent ++
      " on this builder"
  | .nothingPending =>
    "invalid operation sequence: commit requires at least one pending write or delete"
  | .engine e => e.message
  | .cancelled => "operation cancelled"

open Engine (Answer)

/-- The result of a call to an engine. A call that is cancelled beforehand never reaches the engine,
and one that hangs is cancelled in the end. -/
def attempt {σ α : Type} (cancelled : Bool) (call : σ → Answer α × σ) (s : σ) :
    Except Failure α × σ :=
  if cancelled then (.error .cancelled, s)
  else
    match call s with
    | (.value a, s) => (.ok a, s)
    | (.failure e, s) => (.error (.engine e), s)
    | (.pending, s) => (.error .cancelled, s)

end Rebac.Access
