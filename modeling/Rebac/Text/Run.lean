/-! # Runs of code points

A property of characters is a list of runs, in increasing order; a mapping of characters is a list
of runs that each move by one distance. -/

namespace Rebac.Text

/-- The code points `first`, `first + step`, … up to `last`. -/
structure Run where
  first : Nat
  last : Nat
  step : Nat

/-- Whether the code point `n` is on the run. -/
def Run.contains (r : Run) (n : Nat) : Bool :=
  r.first ≤ n && n ≤ r.last && (n - r.first) % r.step == 0

/-- Whether one of the runs holds `n`. The runs are in increasing order, so the search ends at the
first one that starts beyond `n`. -/
def Run.anyContains : List Run → Nat → Bool
  | [], _ => false
  | r :: rest, n => if n < r.first then false else r.contains n || anyContains rest n

/-- A run whose code points all map to the ones `distance` further on. -/
structure Shift where
  run : Run
  distance : Int

/-- Where `n` goes, when one of the shifts moves it. The shifts are in increasing order. -/
def Shift.find? : List Shift → Nat → Option Nat
  | [], _ => none
  | s :: rest, n =>
    if n < s.run.first then none
    else if s.run.contains n then some (n + s.distance).toNat
    else find? rest n

end Rebac.Text
