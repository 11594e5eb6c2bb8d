/-! # Digits -/

namespace Rebac.Text

/-- The value of a decimal digit. -/
def digit? (c : Char) : Option Nat := if c.isDigit then some (c.toNat - '0'.toNat) else none

/-- The value of a hexadecimal digit. -/
def hexDigit? (c : Char) : Option Nat :=
  if c.isDigit then some (c.toNat - '0'.toNat)
  else if 'a' ≤ c ∧ c ≤ 'f' then some (c.toNat - 'a'.toNat + 10)
  else if 'A' ≤ c ∧ c ≤ 'F' then some (c.toNat - 'A'.toNat + 10)
  else none

/-- The number that digits of a base denote, read by `digit`. There is at least one digit. -/
def readNat? (base : Nat) (digit : Char → Option Nat) : List Char → Option Nat
  | [] => none
  | cs => do return (← cs.mapM digit).foldl (fun n d => base * n + d) 0

end Rebac.Text
