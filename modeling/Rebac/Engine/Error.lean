/-! # Failures of engines -/

namespace Rebac.Engine

/-- Why a request never got an answer. -/
inductive TransportFault where
  /-- The request cannot be built. The address is told when it could be read. -/
  | unbuildable (url : Option String)
  /-- The request could not be sent, or its connection closed. -/
  | unsent (url : String)
deriving DecidableEq, Repr

/-- The wording of a transport fault. -/
def TransportFault.message : TransportFault → String
  | .unbuildable none => "builder error"
  | .unbuildable (some url) => "builder error for url (" ++ url ++ ")"
  | .unsent url => "error sending request for url (" ++ url ++ ")"

/-- Why an answer cannot be understood. -/
inductive DecodeFault where
  /-- Its body is not what was asked for. -/
  | body
  /-- It has another number of results than there were checks. -/
  | batchSize (expected got : Nat)
deriving DecidableEq, Repr

/-- The wording of a decoding fault. -/
def DecodeFault.message : DecodeFault → String
  | .body => "error decoding response body"
  | .batchSize expected got =>
    "expected " ++ toString expected ++ " batch results, got " ++ toString got

/-- A failure reported by an engine, or on the way to it. -/
inductive Error where
  | transport (fault : TransportFault)
  /-- The engine answered with a status other than success. -/
  | api (status : Nat) (code message : String)
  | decode (fault : DecodeFault)
  /-- A text that should be a reference is none. -/
  | invalidReference (reference : String)
  | missingStore
  /-- One check of a batch failed. -/
  | batchItem (index : Nat) (message : String)
  /-- One check of a batch has no result. -/
  | missingBatchResult (index : Nat)
deriving DecidableEq, Repr

/-- The wording of a failure. -/
def Error.message : Error → String
  | .transport fault => "transport error: " ++ fault.message
  | .api status code message =>
    "engine returned " ++ toString status ++ " (" ++ code ++ "): " ++ message
  | .decode fault => "failed to decode engine response: " ++ fault.message
  | .invalidReference reference =>
    "invalid request: expected a qualified type:id reference, got '" ++ reference ++ "'"
  | .missingStore => "no store configured; set engine.store_id or create a store first"
  | .batchItem index message => "check " ++ toString index ++ " in batch failed: " ++ message
  | .missingBatchResult index => "missing result for check " ++ toString index ++ " in batch"

end Rebac.Engine
