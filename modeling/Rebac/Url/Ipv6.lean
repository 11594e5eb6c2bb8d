import Rebac.Text.Digit
import Rebac.Text.Quoted

/-! # Addresses of eight groups

Eight hexadecimal numbers of at most four digits stand between colons. Two colons, at one place,
stand for groups of zero, and the last two groups may be written as four decimal bytes. -/

namespace Rebac.Url

/-- An address of eight groups. -/
structure Ipv6 where
  groups : Vector UInt16 8
deriving DecidableEq, Repr

namespace Ipv6

/-! ## Writing -/

/-- The number of zeros at the start of a list. -/
def leadingZeros (groups : List UInt16) : Nat := (groups.takeWhile (· = 0)).length

/-- The place and the length of the first longest run of zeros. -/
def longestZeros (groups : List UInt16) : Nat × Nat :=
  (List.range groups.length).foldl (fun best start =>
    let length := leadingZeros (groups.drop start)
    if best.2 < length then (start, length) else best) (0, 0)

/-- Groups between colons. -/
def joined (groups : List UInt16) : String :=
  ":".intercalate (groups.map fun g => String.ofList (Text.hexDigits g.toNat))

/-- The text of an address. The first longest run of two or more zeros is left out. -/
def text (a : Ipv6) : String :=
  let groups := a.groups.toList
  let (start, length) := longestZeros groups
  if length < 2 then joined groups
  else joined (groups.take start) ++ "::" ++ joined (groups.drop (start + length))

/-! ## Reading -/

/-- One group. -/
def group? (cs : List Char) : Option UInt16 :=
  if cs.length ≤ 4 then (Text.readNat? 16 Text.hexDigit? cs).map UInt16.ofNat else none

/-- A decimal byte without needless zeros. -/
def byte? (cs : List Char) : Option Nat :=
  match cs with
  | '0' :: _ :: _ => none
  | _ => (Text.readNat? 10 Text.digit? cs).filter (· < 256)

/-- The two groups of four bytes between dots. -/
def dotted? (cs : List Char) : Option (List UInt16) := do
  match ← (cs.splitOnP (· = '.')).mapM byte? with
  | [a, b, c, d] => some [UInt16.ofNat (256 * a + b), UInt16.ofNat (256 * c + d)]
  | _ => none

/-- The groups of the pieces between colons. The last piece may be four bytes. -/
def groups? : List (List Char) → Option (List UInt16)
  | [] => some []
  | [piece] => if piece.contains '.' then dotted? piece else (group? piece).map ([·])
  | piece :: rest => do return (← group? piece) :: (← groups? rest)

/-- The pieces between colons. No text is no pieces. -/
def pieces (cs : List Char) : List (List Char) := if cs.isEmpty then [] else cs.splitOnP (· = ':')

/-- What stands before and after the first two colons in a row. -/
def splitAtGap? : List Char → Option (List Char × List Char)
  | ':' :: ':' :: rest => some ([], rest)
  | c :: rest => (splitAtGap? rest).map fun (before, after) => (c :: before, after)
  | [] => none

/-- The groups that a text stands for. -/
def allGroups? (cs : List Char) : Option (List UInt16) :=
  match splitAtGap? cs with
  | none => groups? (pieces cs)
  | some (before, after) => do
    let before ← (pieces before).mapM group?
    let after ← groups? (pieces after)
    if before.length + after.length < 8 then
      some (before ++ List.replicate (8 - before.length - after.length) 0 ++ after)
    else none

/-- The address in a text. -/
def read? (cs : List Char) : Option Ipv6 := do
  let groups ← allGroups? cs
  if h : groups.toArray.size = 8 then some ⟨⟨groups.toArray, h⟩⟩ else none

end Ipv6

end Rebac.Url
