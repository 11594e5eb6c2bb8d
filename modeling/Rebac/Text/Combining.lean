import Rebac.Text.CombiningData

/-! # Combining characters -/

namespace Rebac.Text

/-- Whether `c` is of the general category of marks. -/
def isMark (c : Char) : Bool := Run.anyContains markRuns c.toNat

/-- The canonical combining class of `c`. It is zero of a character that begins a sequence. -/
def combiningClass (c : Char) : Nat :=
  (combiningClassRows.findSome? fun
    | [k, first, last] => if first ≤ c.toNat && c.toNat ≤ last then some k else none
    | _ => none).getD 0

/-- The class of the signs that take the vowel from a letter. -/
def viramaClass : Nat := 9

end Rebac.Text
