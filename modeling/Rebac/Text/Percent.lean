import Rebac.Text.Digit
import Rebac.Text.Quoted

/-! # Percent encoding

A byte of a character's UTF-8 form is written as a percent sign and two hexadecimal digits. -/

namespace Rebac.Text

/-- A byte in percent form, with capital digits. -/
def percentByte (b : UInt8) : List Char :=
  let digits := (hexDigits b.toNat).map Char.toUpper
  '%' :: (if digits.length < 2 then '0' :: digits else digits)

/-- The characters with those outside ASCII, and those that `escapes` names, in percent form. -/
def percentEncode (escapes : Char → Bool) (cs : List Char) : List Char :=
  cs.flatMap fun c =>
    if c.toNat < 0x20 || 0x7f ≤ c.toNat || escapes c then
      (String.utf8EncodeChar c).flatMap percentByte
    else [c]

/-- The bytes of a text in which a percent form stands for its byte. -/
def percentDecode : List Char → List UInt8
  | [] => []
  | '%' :: a :: b :: rest =>
    match hexDigit? a, hexDigit? b with
    | some high, some low => UInt8.ofNat (16 * high + low) :: percentDecode rest
    | _, _ => 0x25 :: percentDecode (a :: b :: rest)
  | c :: rest => String.utf8EncodeChar c ++ percentDecode rest

/-- The text that percent forms stand for, when their bytes are one. -/
def percentText? (cs : List Char) : Option (List Char) :=
  (String.fromUTF8? ⟨(percentDecode cs).toArray⟩).map String.toList

end Rebac.Text
