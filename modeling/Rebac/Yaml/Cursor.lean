/-! # Places in a text

A cursor is the text that is left to read, with the place it begins at. A null character ends a
text, and stands for the end where a character is asked for. -/

namespace Rebac.Yaml

/-! ## Characters -/

/-- What stands for the end of a text. -/
def endMark : Char := '\x00'

/-- Whether `c` is a blank inside a line. -/
def isBlank (c : Char) : Bool := c = ' ' || c = '\t'

/-- Whether `c` breaks a line. -/
def isBreak (c : Char) : Bool := c = '\n' || c = '\r'

/-- Whether a line is over at `c`. -/
def endsLine (c : Char) : Bool := isBreak c || c = endMark

/-- Whether a word is over at `c`. -/
def endsWord (c : Char) : Bool := isBlank c || endsLine c

/-- Whether `c` opens, divides or closes a flow collection. -/
def isFlowMark (c : Char) : Bool := c ∈ [',', '[', ']', '\x7b', '\x7d']

/-- Whether `c` can be part of a name. -/
def isNameChar (c : Char) : Bool := c.isAlphanum || c = '_' || c = '-'

/-! ## Cursors -/

/-- A place in a text. -/
structure Cursor where
  left : List Char
  index : Nat := 0
  line : Nat := 0
  column : Nat := 0
  /-- Whether nothing but blanks stands before the place on its line. -/
  fresh : Bool := true

namespace Cursor

/-- The start of a text, which a null character ends. -/
def ofText (text : String) : Cursor := { left := text.toList.takeWhile (· ≠ endMark) }

/-- The character `k` characters on. -/
def peek (c : Cursor) (k : Nat) : Char := c.left.getD k endMark

/-- The character at the cursor. -/
def ch (c : Cursor) : Char := c.peek 0

/-- A bound for what can be done before the text is over. -/
def fuel (c : Cursor) : Nat := c.left.length + 1

/-- Passes `n` characters of a line. -/
def pass (n : Nat) (c : Cursor) : Cursor :=
  { c with
    left := c.left.drop n
    index := c.index + n
    column := c.column + n
    fresh := c.fresh && n = 0 }

/-- Passes `n` blanks. -/
def passBlanks (n : Nat) (c : Cursor) : Cursor := { c.pass n with fresh := c.fresh }

/-- Passes one line break, if the cursor is at one. -/
def passBreak (c : Cursor) : Cursor :=
  let size := if c.ch = '\r' && c.peek 1 = '\n' then 2 else if isBreak c.ch then 1 else 0
  if size = 0 then c
  else ⟨c.left.drop size, c.index + size, c.line + 1, 0, true⟩

/-- The characters at the cursor that have a property. -/
def taken (p : Char → Bool) (c : Cursor) : List Char := c.left.takeWhile p

/-- Passes the characters that have a property. -/
def passWhile (p : Char → Bool) (c : Cursor) : Cursor := c.pass (c.taken p).length

/-- Passes a comment up to the end of its line. -/
def passComment (c : Cursor) : Cursor := c.passWhile fun ch => !endsLine ch

/-- Whether the cursor is at three characters that stand alone at the start of a line. -/
def atLoneMark (mark : Char) (c : Cursor) : Bool :=
  c.column = 0 && c.ch = mark && c.peek 1 = mark && c.peek 2 = mark && endsWord (c.peek 3)

/-- Whether the cursor is at the mark that begins or ends a document. -/
def atDocumentMark (c : Cursor) : Bool := c.atLoneMark '-' || c.atLoneMark '.'

/-- Passes blanks, or spaces alone, and the comment after them. A comment needs a blank before it.
With the cursor comes what was passed of blanks. -/
def passTrail (tabs : Bool) (c : Cursor) : Option (List Char × Cursor) :=
  let blanks := c.taken fun ch => ch = ' ' || (tabs && ch = '\t')
  let c := c.passBlanks blanks.length
  if c.ch = '#' then if blanks = [] then none else some (blanks, c.passComment)
  else some (blanks, c)

end Cursor

end Rebac.Yaml
