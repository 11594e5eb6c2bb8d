import Rebac.Text.Digit

/-! # Addresses of four bytes

They are written as four decimal numbers between dots, and read in more forms than that: a number
may be octal or hexadecimal, and the last of fewer than four numbers stands for all bytes left. -/

namespace Rebac.Url

/-- An address of four bytes. -/
structure Ipv4 where
  value : UInt32
deriving DecidableEq, Repr

namespace Ipv4

/-- The bytes, first to last. -/
def bytes (a : Ipv4) : List Nat :=
  let n := a.value.toNat
  [n / 0x1000000, n / 0x10000 % 0x100, n / 0x100 % 0x100, n % 0x100]

/-- The text of an address. -/
def text (a : Ipv4) : String := ".".intercalate (a.bytes.map toString)

/-- The value of an octal digit. -/
def octalDigit? (c : Char) : Option Nat := (Text.digit? c).filter (· < 8)

/-- Reads a number: hexadecimal after `0x`, where no digits mean zero, octal after `0`, and
otherwise decimal. -/
def number? : List Char → Option Nat
  | ['0', 'x'] => some 0
  | '0' :: 'x' :: digits => Text.readNat? 16 Text.hexDigit? digits
  | '0' :: c :: digits => Text.readNat? 8 octalDigit? (c :: digits)
  | digits => Text.readNat? 10 Text.digit? digits

/-- The parts of a name between dots, without an empty one at its end. -/
def parts (name : List Char) : List (List Char) :=
  let parts := name.splitOnP (· = '.')
  if parts.getLast? = some [] then parts.dropLast else parts

/-- Whether a name is meant as an address, which its last part tells. -/
def isMeant (name : List Char) : Bool :=
  match (parts name).getLast? with
  | some part => (!part.isEmpty && part.all Char.isDigit) || (number? part).isSome
  | none => false

/-- The address of the numbers between dots. All but the last are bytes, and the last one fills the
bytes that are left. -/
def ofNumbers? (numbers : List Nat) : Option Ipv4 :=
  match numbers.reverse with
  | [] => none
  | last :: firsts =>
    if 3 < firsts.length || firsts.any (255 < ·) ||
        Nat.pow 256 (4 - firsts.length) ≤ last then none
    else
      let high := firsts.reverse.foldl (fun n byte => 256 * n + byte) 0
      some ⟨UInt32.ofNat (high * Nat.pow 256 (4 - firsts.length) + last)⟩

/-- The address that a name means. -/
def ofName? (name : List Char) : Option Ipv4 := do ofNumbers? (← (parts name).mapM number?)

end Ipv4

end Rebac.Url
