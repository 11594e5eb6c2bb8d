import Rebac.Decimal.Layout

/-! # Extended numbers

The binary numbers together with the two infinities and the undefined number. -/

namespace Rebac.Decimal

/-- A binary number, or one of those beyond them. -/
inductive Extended where
  | finite (x : Binary64)
  | infinite (negative : Bool)
  | undefined
deriving DecidableEq, Repr

namespace Extended

/-- The number nearest to `digits * 10 ^ exponent`, where a number too large is infinite. The digits
have at most `places` places, which tells beforehand when next to nothing is left. -/
def ofDecimal (negative : Bool) (digits places : Nat) (exponent : Int) : Extended :=
  let magnitude :=
    if digits = 0 ∨ exponent + places < -400 then some Magnitude.zero
    else if 400 < exponent then none
    else if 0 ≤ exponent then Magnitude.ofNat? (digits * Nat.pow 10 exponent.toNat)
    else Magnitude.ofRatio? digits (Nat.pow 10 (-exponent).toNat)
  match magnitude with
  | some m => .finite ⟨negative, m⟩
  | none => .infinite negative

/-- Whether the number is another one than zero. The undefined number is. -/
def isNonzero : Extended → Bool
  | .finite x => x.magnitude.significand ≠ 0
  | .infinite _ | .undefined => true

/-- The text of the number, without any exponent. -/
def toText : Extended → String
  | .finite x => x.toText .positional
  | .infinite negative => if negative then "-inf" else "inf"
  | .undefined => "NaN"

end Extended

end Rebac.Decimal
