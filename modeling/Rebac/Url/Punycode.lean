import Rebac.Text.Digit

/-! # Punycode

A text written in letters, digits and hyphens: its ASCII characters as they stand, then after a
hyphen, for the others in increasing order, the distances from one to the next, in a number system
whose thresholds follow the distances so far. -/

namespace Rebac.Url.Punycode

/-- The character of a digit below 36. -/
def digitChar (d : Nat) : Char :=
  if d < 26 then Char.ofNat ('a'.toNat + d) else Char.ofNat ('0'.toNat + (d - 26))

/-- The digit of a character, in either case. -/
def digit? (c : Char) : Option Nat :=
  if c.isLower then some (c.toNat - 'a'.toNat)
  else if c.isUpper then some (c.toNat - 'A'.toNat)
  else (Text.digit? c).map (· + 26)

/-- The threshold of the digit at `position`, which counts in steps of 36 from 36 on. A digit below
its threshold ends a number. -/
def threshold (position bias : Nat) : Nat := min 26 (max 1 (position - bias))

theorem threshold_pos (position bias : Nat) : 0 < threshold position bias := by
  unfold threshold; omega

/-- Brings a distance down to the range that the bias is made from, and counts the steps. -/
def scaled (distance steps : Nat) : Nat × Nat :=
  if 455 < distance then scaled (distance / 35) (steps + 1) else (distance, steps)
termination_by distance
decreasing_by omega

/-- The bias after a distance, when the text has `count` characters by then. The first distance is
taken to be larger than those that follow. -/
def bias (distance count : Nat) (isFirst : Bool) : Nat :=
  let distance := if isFirst then distance / 700 else distance / 2
  let (rest, steps) := scaled (distance + distance / count) 0
  36 * steps + 36 * rest / (rest + 38)

/-- The bias at the start. -/
def startBias : Nat := 72

/-- The first code point that is not ASCII. -/
def firstCode : Nat := 0x80

/-- The largest distance that is read or written. -/
def maxDistance : Nat := 0xffffffff

/-! ## Writing -/

/-- The digits of a number, from `position` on. -/
def encodeNumber (bias position n : Nat) : List Char :=
  let t := threshold position bias
  if n < t then [digitChar n]
  else digitChar (t + (n - t) % (36 - t)) :: encodeNumber bias (position + 36) ((n - t) / (36 - t))
termination_by n
decreasing_by
  have := threshold_pos position bias
  have := Nat.div_le_self (n - threshold position bias) (36 - threshold position bias)
  omega

/-- What is known between two characters that are written: the distance since the last one, the bias
and the number of characters written. -/
structure Place where
  distance : Nat
  bias : Nat
  written : Nat

/-- Walks over the text for the code point `n`: what is written for each of its places, when the
text has `basic` ASCII characters. -/
def encodeCode (n basic : Nat) : List Char → Place → List Char × Place
  | [], p => ([], p)
  | c :: rest, p =>
    if c.toNat < n then encodeCode n basic rest { p with distance := p.distance + 1 }
    else if c.toNat = n then
      let written := p.written + 1
      let (digits, q) := encodeCode n basic rest
        ⟨0, Punycode.bias p.distance written (p.written = basic), written⟩
      (encodeNumber p.bias 36 p.distance ++ digits, q)
    else encodeCode n basic rest p

/-- Writes the code points of a list, which is in increasing order and starts at `next` or above. -/
def encodeCodes (text : List Char) (basic : Nat) : List Nat → Nat → Place → List Char
  | [], _, _ => []
  | n :: more, next, p =>
    let start := { p with distance := p.distance + (n - next) * (p.written + 1) }
    let (digits, p) := encodeCode n basic text start
    digits ++ encodeCodes text basic more (n + 1) { p with distance := p.distance + 1 }

/-- Puts a number in its place in an increasing list, once. -/
def insertOnce (n : Nat) : List Nat → List Nat
  | [] => [n]
  | m :: rest =>
    if n < m then n :: m :: rest else if n = m then m :: rest else m :: insertOnce n rest

/-- The written form of a text. -/
def encode (text : List Char) : List Char :=
  let basic := text.filter (·.toNat < firstCode)
  let codes := ((text.map Char.toNat).filter (firstCode ≤ ·)).foldr insertOnce []
  (if basic.isEmpty then [] else basic ++ ['-']) ++
    encodeCodes text basic.length codes firstCode ⟨0, startBias, basic.length⟩

/-! ## Reading -/

/-- Reads a number, onto `sum`: the sum and what follows. The digit at `position` counts
`weight`. -/
def readNumber? (bias position weight sum : Nat) : (cs : List Char) →
    Option (Nat × { rest : List Char // rest.length < cs.length })
  | [] => none
  | c :: rest => do
    let d ← digit? c
    let sum := sum + d * weight
    let t := threshold position bias
    if maxDistance < sum then none
    else if d < t then some (sum, ⟨rest, by simp⟩)
    else
      let weight := weight * (36 - t)
      if maxDistance < weight then none
      else
        let (sum, ⟨rest, h⟩) ← readNumber? bias (position + 36) weight sum rest
        some (sum, ⟨rest, by simp; omega⟩)

/-- Reads the distances that follow the ASCII characters. Each puts a character into `text`, which
is at least `code`, at `position` or further on. -/
def readCodes? (text : List Char) (code position bias : Nat) (cs : List Char) :
    Option (List Char) :=
  match cs with
  | [] => some text
  | c :: more =>
    match readNumber? bias 36 1 position (c :: more) with
    | none => none
    | some (sum, ⟨rest, _⟩) =>
      let count := text.length + 1
      let code := code + sum / count
      if code.isValidChar then
        readCodes? (text.insertIdx (sum % count) (Char.ofNat code)) code (sum % count + 1)
          (Punycode.bias (sum - position) count (position = 0)) rest
      else none
termination_by cs.length
decreasing_by assumption

/-- The text of a written form: what stands before its last hyphen, if that is not its first
character, and the characters that are told after it. -/
def decode? (cs : List Char) : Option (List Char) :=
  let codes := (cs.reverse.takeWhile (· ≠ '-')).reverse
  let basic := cs.take (cs.length - codes.length - 1)
  if basic.isEmpty then readCodes? [] firstCode 0 startBias cs
  else if basic.all (·.toNat < firstCode) then readCodes? basic firstCode 0 startBias codes
  else none

end Rebac.Url.Punycode
