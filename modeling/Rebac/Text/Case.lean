import Rebac.Text.CaseData

/-! # Letter case

Case of single characters by the full Unicode properties and mappings, without regard to language
or neighbours. A character may have a lower-case or upper-case form of several characters, and an
upper-case character may have no lower-case form but itself. -/

namespace Rebac.Text

/-- Whether `c` has the property `Uppercase`. -/
def isUppercase (c : Char) : Bool := Run.anyContains uppercaseRuns c.toNat

/-- Whether `c` has the property `Lowercase`. -/
def isLowercase (c : Char) : Bool := Run.anyContains lowercaseRuns c.toNat

/-- The mapping of one character by a table of long forms and a table of shifts. -/
def mapCase (expansions : List (Nat × List Nat)) (shifts : List Shift) (c : Char) : List Char :=
  match expansions.lookup c.toNat with
  | some ns => ns.map Char.ofNat
  | none =>
    match Shift.find? shifts c.toNat with
    | some n => [Char.ofNat n]
    | none => [c]

/-- The lower-case form of `c`. -/
def lowerForm (c : Char) : List Char := mapCase lowerExpansions lowerShifts c

/-- The upper-case form of `c`. -/
def upperForm (c : Char) : List Char := mapCase upperExpansions upperShifts c

end Rebac.Text
