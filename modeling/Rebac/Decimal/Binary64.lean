/-! # Binary floating-point numbers

Finite numbers of the 64-bit binary format, as exact values: a number is
`significand * 2 ^ exponent` with a sign. Every operation rounds its exact result to the nearest
number, a tie to the even significand, and a result beyond the largest number is `none`. -/

namespace Rebac.Decimal

/-- A nonnegative number of the format: the significand is below `2 ^ 53`, the exponent is from
`-1074` to `971`, and a significand below `2 ^ 52` has the least exponent. -/
structure Magnitude where
  significand : Nat
  exponent : Int
deriving DecidableEq, Repr

/-- A finite number of the format. Zero has two signs. -/
structure Binary64 where
  negative : Bool
  magnitude : Magnitude
deriving DecidableEq, Repr

/-- `num / den` to the nearest integer, a tie to the even one. -/
def roundDiv (num den : Nat) : Nat :=
  let q := num / den
  let r := num % den
  if 2 * r < den then q else if den < 2 * r then q + 1 else q + q % 2

/-- The fraction `num / den` divided by `2 ^ e`. -/
def scaleDown (num den : Nat) (e : Int) : Nat × Nat :=
  if 0 ≤ e then (num, den * Nat.pow 2 e.toNat) else (num * Nat.pow 2 (-e).toNat, den)

/-- The `e` with `2 ^ e ≤ num / den < 2 ^ (e + 1)`, for a positive fraction. -/
def floorLog2 (num den : Nat) : Int :=
  let guess : Int := (num.log2 : Int) - (den.log2 : Int)
  let (n, d) := scaleDown num den guess
  if d ≤ n then guess else guess - 1

namespace Magnitude

/-- Zero. -/
def zero : Magnitude := ⟨0, -1074⟩

/-- The number nearest to `num / den`. -/
def ofRatio? (num den : Nat) : Option Magnitude :=
  if num = 0 then some zero
  else
    let exponent := max (floorLog2 num den - 52) (-1074)
    let (n, d) := scaleDown num den exponent
    let significand := roundDiv n d
    let rounded : Magnitude :=
      if significand = Nat.pow 2 53 then ⟨Nat.pow 2 52, exponent + 1⟩ else ⟨significand, exponent⟩
    if 971 < rounded.exponent then none else some rounded

/-- The value as a fraction. -/
def toRatio (m : Magnitude) : Nat × Nat := scaleDown m.significand 1 (-m.exponent)

/-- The number nearest to `n`. -/
def ofNat? (n : Nat) : Option Magnitude := ofRatio? n 1

/-- The rounded sum. -/
def add? (a b : Magnitude) : Option Magnitude :=
  let (n, d) := a.toRatio
  let (k, e) := b.toRatio
  ofRatio? (n * e + k * d) (d * e)

/-- The rounded product. -/
def mul? (a b : Magnitude) : Option Magnitude :=
  let (n, d) := a.toRatio
  let (k, e) := b.toRatio
  ofRatio? (n * k) (d * e)

/-- The rounded quotient by a number other than zero. -/
def div? (a b : Magnitude) : Option Magnitude :=
  let (n, d) := a.toRatio
  let (k, e) := b.toRatio
  ofRatio? (n * e) (d * k)

/-- The number nearest to `10 ^ n`. -/
def tenPow? (n : Nat) : Option Magnitude := ofNat? (Nat.pow 10 n)

/-- `m * 10 ^ e`, rounded once for the power of ten and once for the product or quotient. Beyond
`10 ^ -308` the quotient is taken in two steps, and beyond `10 ^ -616` nothing is left. The number
`m` is below `2 ^ 64`. -/
def timesTenPow? (m : Magnitude) (e : Int) : Option Magnitude :=
  if m.significand = 0 then some zero
  else if 308 < e then none
  else if 0 ≤ e then do mul? m (← tenPow? e.toNat)
  else if -308 ≤ e then do div? m (← tenPow? (-e).toNat)
  else if -616 ≤ e then do
    let once ← div? m (← tenPow? 308)
    div? once (← tenPow? (-e - 308).toNat)
  else some zero

end Magnitude

/-- Equality as numbers: the two zeros are equal. -/
def Binary64.same (x y : Binary64) : Bool :=
  x == y || (x.magnitude.significand == 0 && y.magnitude.significand == 0)

end Rebac.Decimal
