import Rebac.Text.DirectionData

/-! # Direction of writing -/

namespace Rebac.Text

/-- How a character takes part in the direction of a line. -/
inductive Direction where
  | left
  | right
  | europeanNumber
  | arabicNumber
  /-- A mark, which takes the direction of its neighbours. -/
  | mark
  | neutral
deriving DecidableEq, Repr

/-- The direction of a character. -/
def direction (c : Char) : Direction :=
  let n := c.toNat
  if Run.anyContains rightRuns n then .right
  else if Run.anyContains arabicNumberRuns n then .arabicNumber
  else if Run.anyContains europeanNumberRuns n then .europeanNumber
  else if Run.anyContains directionlessMarkRuns n then .mark
  else if Run.anyContains neutralRuns n then .neutral
  else .left

/-- Whether a character makes the names it stands in subject to the rule on directions. -/
def isRightward (c : Char) : Bool := direction c = .right || direction c = .arabicNumber

/-- The rule on directions, for one label of a name. It begins with a letter and keeps the direction
of that letter; marks apart, it ends with such a letter or a number. A label from left to right
holds no Arabic numbers, and one from right to left holds numbers of one kind. -/
def keepsDirection : List Char → Bool
  | [] => true
  | first :: rest =>
    let directions := rest.map direction
    let last := (directions.reverse.find? (· ≠ .mark)).getD (direction first)
    match direction first with
    | .left =>
      !directions.contains .right && !directions.contains .arabicNumber &&
        (last = .left || last = .europeanNumber)
    | .right =>
      !directions.contains .left &&
        !(directions.contains .europeanNumber && directions.contains .arabicNumber) &&
        (last = .right || last = .europeanNumber || last = .arabicNumber)
    | _ => false

end Rebac.Text
