import Rebac.Text.Combining
import Rebac.Text.CompositionData

/-! # Canonical composition

The composed form of a text: every character is taken apart, the marks that follow a character are
put in the order of their classes, and what can be put together is put together. Characters that
stand for a single other one are not touched; whoever composes a text has replaced them before. -/

namespace Rebac.Text

/-! ## Syllables

The syllables of the Korean script are composed by rule: a lead, a vowel and perhaps a tail. -/

/-- The first lead. -/
def firstLead : Nat := 0x1100

/-- The first vowel. -/
def firstVowel : Nat := 0x1161

/-- The code point before the first tail. -/
def noTail : Nat := 0x11a7

/-- The first syllable. -/
def firstSyllable : Nat := 0xac00

/-- The parts of a syllable. -/
def syllableParts? (n : Nat) : Option (List Nat) :=
  if firstSyllable ≤ n && n < firstSyllable + 19 * 21 * 28 then
    let index := n - firstSyllable
    let parts := [firstLead + index / (21 * 28), firstVowel + index % (21 * 28) / 28]
    some (if index % 28 = 0 then parts else parts ++ [noTail + index % 28])
  else none

/-- The syllable of a lead and a vowel, or of a syllable without a tail and a tail. -/
def syllable? (a b : Nat) : Option Nat :=
  if firstLead ≤ a && a < firstLead + 19 && firstVowel ≤ b && b < firstVowel + 21 then
    some (firstSyllable + ((a - firstLead) * 21 + (b - firstVowel)) * 28)
  else if firstSyllable ≤ a && a < firstSyllable + 19 * 21 * 28 && (a - firstSyllable) % 28 = 0 &&
      noTail < b && b < noTail + 28 then
    some (a + (b - noTail))
  else none

/-! ## Taking apart -/

/-- The two parts of a composed character. -/
def parts? (n : Nat) : Option (Nat × Nat) :=
  compositionRows.findSome? fun
    | [whole, a, b] => if whole = n then some (a, b) else none
    | _ => none

/-- The code points that `n` is composed of, taken apart at most `depth` times. -/
def decomposedAt : Nat → Nat → List Nat
  | 0, n => [n]
  | depth + 1, n =>
    match parts? n with
    | some (a, b) => decomposedAt depth a ++ [b]
    | none => (syllableParts? n).getD [n]

/-- The number of times that a character can be taken apart. -/
def compositionDepth : Nat := 4

/-- The characters that `c` is composed of. -/
def decomposed (c : Char) : List Char :=
  if c.toNat < 0x80 then [c] else (decomposedAt compositionDepth c.toNat).map Char.ofNat

/-- Puts `c` before a text whose marks are in order, behind those of a lower class. -/
def insertByClass (c : Char) : List Char → List Char
  | [] => [c]
  | d :: rest =>
    if combiningClass d ≠ 0 && combiningClass d < combiningClass c then d :: insertByClass c rest
    else c :: d :: rest

/-- The text taken apart, with its marks in order. -/
def decompose (cs : List Char) : List Char := (cs.flatMap decomposed).foldr insertByClass []

/-! ## Putting together -/

/-- The character that two are put together to. -/
def whole? (a b : Char) : Option Char :=
  ((syllable? a.toNat b.toNat).or <|
    compositionRows.findSome? fun
      | [whole, x, y] => if x = a.toNat && y = b.toNat then some whole else none
      | _ => none).map Char.ofNat

/-- Puts together what follows `start`. `passed` holds the marks, last first, that stay beside it: a
character reaches `start` only past marks of a lower class. -/
def composeFrom (start : Char) (passed : List Char) : List Char → List Char
  | [] => start :: passed.reverse
  | c :: rest =>
    let reaches := passed.head?.all (combiningClass · < combiningClass c)
    match if reaches then whole? start c else none with
    | some whole => composeFrom whole passed rest
    | none =>
      if combiningClass c = 0 then start :: passed.reverse ++ composeFrom c [] rest
      else composeFrom start (c :: passed) rest

/-- The composed form of a text. -/
def compose (cs : List Char) : List Char :=
  let apart := decompose cs
  let leading := apart.takeWhile (combiningClass · ≠ 0)
  match apart.dropWhile (combiningClass · ≠ 0) with
  | [] => leading
  | start :: rest => leading ++ composeFrom start [] rest

end Rebac.Text
