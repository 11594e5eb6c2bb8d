import Rebac.Engine.Basic

/-! # Scripted answers

Any engine with some of its answers replaced: a batch of checks, or a write, that succeeded takes
the next scripted answer of its kind instead of its own. -/

namespace Rebac.Engine

/-- The state of an engine, with the answers to come. -/
structure Scripted (σ : Type) where
  inner : σ
  batches : List (List Bool) := []
  receipts : List WriteReceipt := []

namespace Scripted

variable {σ α β : Type}

/-- An answer of the engine inside. -/
def lift (call : σ → Answer α × σ) (s : Scripted σ) : Answer α × Scripted σ :=
  let (answer, inner) := call s.inner
  (answer, { s with inner })

/-- A successful answer, replaced by the first of `script` when there is one, with the rest of the
script. -/
def replace (answer : Answer α) (script : List α) : Answer α × List α :=
  match answer, script with
  | .value _, a :: rest => (.value a, rest)
  | answer, script => (answer, script)

end Scripted

open Scripted in
/-- The engine `e` with scripted answers. -/
def scripted {σ : Type} (e : Engine σ) : Engine (Scripted σ) where
  write request s :=
    let (answer, s) := lift (e.write request) s
    let (answer, receipts) := replace answer s.receipts
    (answer, { s with receipts })
  check item := lift (e.check item)
  checkBatch items s :=
    let (answer, s) := lift (e.checkBatch items) s
    let (answer, batches) := replace answer s.batches
    (answer, { s with batches })
  listObjects user relation objectType := lift (e.listObjects user relation objectType)
  listUsers object relation userType := lift (e.listUsers object relation userType)
  read filter := lift (e.read filter)

end Rebac.Engine
