import Rebac.Json.Basic
import Rebac.Json.Fault
import Rebac.Text.Digit

/-! # Numbers in JSON text

A numeral without a fraction or exponent that fits 64 bits is a whole number. Any other is a binary
number: its leading digits that fit 64 bits are scaled by a power of ten. -/

namespace Rebac.Json

open Decimal (Magnitude)
open Text (digit?)

/-- A numeral: digits before and after the point, and an exponent. -/
structure Numeral where
  negative : Bool
  whole : List Nat
  fraction : Option (List Nat)
  exponent : Option Int
deriving Repr

/-- Appends digits to `n` while it fits 64 bits. Gives the digits left over as well. -/
def absorb : Nat → List Nat → Nat × List Nat
  | n, [] => (n, [])
  | n, d :: rest =>
    let next := 10 * n + d
    if next < Nat.pow 2 64 then absorb next rest else (n, d :: rest)

/-- The number that digits and a power of ten denote. A number too large has none. -/
def scaled? (negative : Bool) (digits : Nat) (exponent : Int) : Option Json := do
  let m ← Magnitude.ofNat? digits
  return .real ⟨negative, ← m.timesTenPow? exponent⟩

/-- The number a numeral denotes. Zero with a minus sign is a binary number, as the whole numbers
have one zero only. -/
def Numeral.value? (n : Numeral) : Option Json :=
  let (whole, left) := absorb 0 n.whole
  match n.fraction, n.exponent with
  | none, none =>
    if left ≠ [] then scaled? n.negative whole left.length
    else if !n.negative then some (.int whole)
    else if whole = 0 ∨ Nat.pow 2 63 < whole then scaled? true whole 0
    else some (.int (-whole))
  | fraction, exponent =>
    let digits := fraction.getD []
    let (value, dropped) := absorb whole digits
    let taken := digits.length - dropped.length
    scaled? n.negative value (left.length - taken + exponent.getD 0)

/-- The digits at the front. -/
def takeDigits : List Char → List Nat × List Char
  | [] => ([], [])
  | c :: rest =>
    match digit? c with
    | some d =>
      let (ds, after) := takeDigits rest
      (d :: ds, after)
    | none => ([], c :: rest)

/-- The halt where a digit is missing. -/
def noDigit : List Char → Halt
  | [] => ⟨.endInValue, [], 0⟩
  | c :: rest => ⟨.badNumber, c :: rest, 1⟩

/-- Digits at the front, of which there must be one. -/
def takeSomeDigits (cs : List Char) : Except Halt (List Nat × List Char) :=
  match takeDigits cs with
  | ([], _) => .error (noDigit cs)
  | found => .ok found

/-- The digits of a whole part: a zero alone, or digits that do not start with zero. -/
def takeWhole : List Char → Except Halt (List Nat × List Char)
  | '0' :: c :: rest =>
    if c.isDigit then .error (noDigit (c :: rest)) else .ok ([0], c :: rest)
  | cs => takeSomeDigits cs

/-- The fraction after a point, when there is a point. -/
def takeFraction : List Char → Except Halt (Option (List Nat) × List Char)
  | '.' :: rest => (takeSomeDigits rest).map fun (ds, after) => (some ds, after)
  | cs => .ok (none, cs)

/-- The integer that digits denote. -/
def ofDigits (ds : List Nat) : Nat := ds.foldl (fun n d => 10 * n + d) 0

/-- A sign at the front of an exponent, and the rest. -/
def takeSign : List Char → Bool × List Char
  | '-' :: rest => (true, rest)
  | '+' :: rest => (false, rest)
  | rest => (false, rest)

/-- The text after the digits of an exponent. An exponent does not go beyond 31 bits, so the text
after the digit that takes it there where one does. -/
def afterExponent (n : Nat) : List Char → List Char
  | [] => []
  | c :: rest =>
    match digit? c with
    | some d => if 10 * n + d < Nat.pow 2 31 then afterExponent (10 * n + d) rest else rest
    | none => c :: rest

/-- An exponent in a text. -/
structure Exponent where
  value : Int
  /-- The text after it. -/
  left : List Char
  /-- The text after the place where it is seen to be too large, if it is. -/
  seen : List Char

/-- The exponent, when there is one. -/
def takeExponent : List Char → Except Halt (Option Exponent)
  | c :: rest =>
    if c = 'e' ∨ c = 'E' then
      let (negative, rest) := takeSign rest
      (takeSomeDigits rest).map fun (ds, left) =>
        let n : Int := ofDigits ds
        some ⟨if negative then -n else n, left, afterExponent 0 rest⟩
    else .ok none
  | [] => .ok none

/-- A numeral at the front of the text, after its minus sign where it has one. With it come the
text after it, and the text after the place where it is seen to be too large, if it is. -/
def readNumeral (negative : Bool) (cs : List Char) :
    Except Halt (Numeral × List Char × List Char) := do
  let (whole, cs) ← takeWhole cs
  let (fraction, cs) ← takeFraction cs
  match ← takeExponent cs with
  | some e => return (⟨negative, whole, fraction, some e.value⟩, e.left, e.seen)
  | none => return (⟨negative, whole, fraction, none⟩, cs, cs)

/-- A number at the front of the text, after its minus sign where it has one. -/
def readNumber (negative : Bool) (cs : List Char) : Except Halt (Json × List Char) := do
  let (numeral, cs, seen) ← readNumeral negative cs
  match numeral.value? with
  | some value => return (value, cs)
  | none => throw ⟨.tooLarge, seen, 0⟩

end Rebac.Json
