import Rebac.Decimal.Binary64

/-! # Shortest decimals

The decimal of a binary number is the one with the fewest digits among those that round to it, and
of these the nearest. For each count of digits only the two neighbours of the value on that decimal
grid can qualify, and where the value lies exactly between them the format decides. -/

namespace Rebac.Decimal

/-- A positive decimal `0.d₁d₂… * 10 ^ point`: its digits, the first of them not zero, and the place
of the point. -/
structure Digits where
  digits : Nat
  count : Nat
  point : Int
deriving DecidableEq, Repr

/-- Whether `num / den` rounds to `m`: it lies between the midpoints to the two neighbours of `m`,
ends included when the significand is even. Below a power of two the lower neighbour is half as
far. -/
def Magnitude.isRoundingOf (m : Magnitude) (num den : Nat) : Bool :=
  -- in quarters of the last place of `m`
  let (n, d) := scaleDown num den (m.exponent - 2)
  let below := if m.significand = Nat.pow 2 52 ∧ -1074 < m.exponent then 1 else 2
  let lo := (4 * m.significand - below) * d
  let hi := (4 * m.significand + 2) * d
  if m.significand % 2 = 0 then lo ≤ n && n ≤ hi else lo < n && n < hi

/-- The `e` with `10 ^ (e - 1) ≤ num / den < 10 ^ e`, searched downwards from an upper bound. -/
def decimalPoint (num den : Nat) : Nat → Int → Int
  | 0, e => e
  | fuel + 1, e =>
    let below := e - 1
    let reached := if 0 ≤ below then den * Nat.pow 10 below.toNat ≤ num
      else den ≤ num * Nat.pow 10 (-below).toNat
    if reached then e else decimalPoint num den fuel below

/-- The unit `10 ^ e` as a fraction. -/
def tenPowRatio (e : Int) : Nat × Nat :=
  if 0 ≤ e then (Nat.pow 10 e.toNat, 1) else (1, Nat.pow 10 (-e).toNat)

/-- Which of two equally near decimals is taken. -/
inductive Tie where
  | up
  | even
deriving DecidableEq, Repr

/-- The decimal of `count` digits that rounds to `m`, the nearer of two. -/
def Magnitude.digitsOfCount? (m : Magnitude) (tie : Tie) (point : Int) (count : Nat) :
    Option Digits :=
  let (num, den) := m.toRatio
  let (unitNum, unitDen) := tenPowRatio (point - count)
  let n := num * unitDen
  let d := den * unitNum
  let low := n / d
  let high := low + 1
  let fits (k : Nat) : Bool := m.isRoundingOf (k * unitNum) unitDen
  let lowIsNearer :=
    2 * (n % d) < d || (2 * (n % d) == d && tie == .even && low % 2 == 0)
  let pick? : Option Nat :=
    match fits low, fits high with
    | true, true => some (if lowIsNearer then low else high)
    | true, false => some low
    | false, true => some high
    | false, false => none
  pick?.map fun k =>
    if k = Nat.pow 10 count then ⟨1, 1, point + 1⟩ else ⟨k, count, point⟩

/-- The first count of digits from `count` on that has a decimal. -/
def Magnitude.digitsFrom (m : Magnitude) (tie : Tie) (point : Int) : Nat → Nat → Digits
  | 0, count => ⟨0, count, point⟩
  | fuel + 1, count =>
    match m.digitsOfCount? tie point count with
    | some found => found
    | none => digitsFrom m tie point fuel (count + 1)

/-- The shortest decimal of a positive number. Seventeen digits always suffice. -/
def Magnitude.shortest (m : Magnitude) (tie : Tie) : Digits :=
  let (num, den) := m.toRatio
  m.digitsFrom tie (decimalPoint num den 700 310) 17 1

/-- The characters of the digits. -/
def Digits.toChars (d : Digits) : List Char := Nat.toDigits 10 d.digits

end Rebac.Decimal
