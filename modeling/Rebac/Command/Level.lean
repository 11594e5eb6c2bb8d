import Rebac.Text.Affix
import Rebac.Text.Digit

/-! # Levels

How much notices matter. -/

namespace Rebac.Command

/-- How much a notice matters. -/
inductive Level where
  | error
  | warn
  | info
  | debug
  | trace
deriving DecidableEq, Repr

/-- How many levels matter at least as much. -/
def Level.rank : Level → Nat
  | .error => 1
  | .warn => 2
  | .info => 3
  | .debug => 4
  | .trace => 5

/-- The name of a level. -/
def Level.name : Level → String
  | .error => "ERROR"
  | .warn => "WARN"
  | .info => "INFO"
  | .debug => "DEBUG"
  | .trace => "TRACE"

/-- The number in a text of digits, perhaps after a plus sign. -/
def rankOfNumber? (word : String) : Option Nat :=
  Text.readNat? 10 Text.digit? (((Text.afterLead? word "+").getD word).toList)

/-- The least rank shown by a rule that a word sets: the rank as a number, or a name in any case. -/
def rankOfWord? (word : String) : Option Nat :=
  match rankOfNumber? word with
  | some rank => if rank ≤ Level.trace.rank then some rank else none
  | none =>
    match Text.asciiLower word with
    | "off" => some 0
    | "error" => some 1
    | "warn" => some 2
    | "info" => some 3
    | "debug" => some 4
    | "trace" => some 5
    | _ => none

end Rebac.Command
