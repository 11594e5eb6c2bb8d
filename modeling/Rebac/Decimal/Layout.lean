import Rebac.Decimal.Shortest

/-! # Layout of decimals

How the shortest digits of a number become text. -/

namespace Rebac.Decimal

/-- The decisions of a number format. -/
structure Layout where
  /-- The least place of the point that is written out, without an exponent. -/
  leastPoint : Int
  /-- The greatest place of the point that is written out. -/
  greatestPoint : Int
  /-- Whether a whole number ends in a point and a zero. -/
  wholeEnd : Bool
  /-- Which of two equally near decimals is taken. -/
  tie : Tie

/-- Numbers in JSON text: exponents from `-5` to `15` are written out, a whole number keeps a
fraction, and a tie goes to the even digit. -/
def Layout.json : Layout := ⟨-4, 16, true, .even⟩

/-- Numbers without any exponent, a tie upwards. -/
def Layout.positional : Layout := ⟨-400, 400, false, .up⟩

/-- An exponent with its sign. -/
def exponentChars (e : Int) : List Char :=
  'e' :: (if e < 0 then '-' else '+') :: Nat.toDigits 10 e.natAbs

/-- The digits laid out around the point, or with an exponent when the point is too far away. -/
def Digits.layout (d : Digits) (style : Layout) : List Char :=
  let digits := d.toChars
  if style.leastPoint ≤ d.point ∧ d.point ≤ style.greatestPoint then
    if d.point ≤ 0 then
      '0' :: '.' :: List.replicate (-d.point).toNat '0' ++ digits
    else if d.point.toNat < digits.length then
      digits.take d.point.toNat ++ '.' :: digits.drop d.point.toNat
    else
      digits ++ List.replicate (d.point.toNat - digits.length) '0' ++
        (if style.wholeEnd then ['.', '0'] else [])
  else
    let lead := match digits with
      | [] => []
      | [x] => [x]
      | x :: rest => x :: '.' :: rest
    lead ++ exponentChars (d.point - 1)

/-- The text of a nonnegative number. -/
def Magnitude.layout (m : Magnitude) (style : Layout) : List Char :=
  if m.significand = 0 then '0' :: (if style.wholeEnd then ['.', '0'] else [])
  else (m.shortest style.tie).layout style

/-- The text of a number. -/
def Binary64.toText (x : Binary64) (style : Layout) : String :=
  String.ofList ((if x.negative then ['-'] else []) ++ x.magnitude.layout style)

end Rebac.Decimal
