import Rebac.Text.Digit
import Rebac.Yaml.Cursor

/-! # Words of scalars

A plain or quoted scalar is a row of words. A line break between two words becomes a space, and of
several line breaks all but one are kept. -/

namespace Rebac.Yaml

/-- What stands between two words. -/
structure Gap where
  /-- The blanks, last first, when there is no line break. -/
  blanks : List Char := []
  breaks : Nat := 0
  /-- Whether the first line break was escaped, and is not counted. -/
  escaped : Bool := false

namespace Gap

/-- Whether the words stand on different lines. -/
def isBroken (g : Gap) : Bool := g.escaped || g.breaks ≠ 0

/-- What becomes of the gap, last character first. -/
def text (g : Gap) : List Char :=
  if g.escaped then List.replicate g.breaks '\n'
  else
    match g.breaks with
    | 0 => g.blanks
    | 1 => [' ']
    | n + 1 => List.replicate n '\n'

/-- One more line break. -/
def broken (g : Gap) : Gap := { g with blanks := [], breaks := g.breaks + 1 }

end Gap

/-! ## Plain scalars -/

/-- The plain word at the front of a text. A colon ends it where a value could begin. -/
def plainWord (inFlow : Bool) : List Char → List Char
  | [] => []
  | c :: rest =>
    if endsWord c || (inFlow && isFlowMark c) then []
    else
      let next := rest.headD endMark
      if c = ':' && (endsWord next || (inFlow && isFlowMark next)) then []
      else c :: plainWord inFlow rest

/-- The gap after a plain word. On a new line a tab left of `indent` needs the line to be empty. -/
def plainGap (indent : Int) : (fuel : Nat) → Gap → Cursor → Option (Gap × Cursor)
  | 0, _, _ => none
  | fuel + 1, gap, c =>
    if isBlank c.ch then
      if !c.fresh then
        plainGap indent fuel { gap with blanks := c.ch :: gap.blanks } (c.passBlanks 1)
      else if c.column < indent && c.ch = '\t' then do
        let (_, c) ← c.passTrail true
        if endsLine c.ch then plainGap indent fuel gap c else none
      else plainGap indent fuel gap (c.passBlanks 1)
    else if isBreak c.ch then plainGap indent fuel gap.broken c.passBreak
    else some (gap, c)

/-- The rest of a plain scalar behind a gap. `acc` holds what was read, last first. Outside flow
collections it ends at a line that is indented less than `indent`. -/
def plainWords (inFlow : Bool) (indent : Int) :
    (fuel : Nat) → (acc : List Char) → Gap → Cursor → Option (List Char × Cursor)
  | 0, _, _, _ => none
  | fuel + 1, acc, gap, c =>
    if c.atDocumentMark || c.ch = '#' then some (acc, c)
    else if inFlow && c.ch = '-' && isFlowMark (c.peek 1) then none
    else
      let word := plainWord inFlow c.left
      let (acc, gap) := if word = [] then (acc, gap) else (word.reverse ++ gap.text ++ acc, {})
      let c := c.pass word.length
      if !isBlank c.ch && !isBreak c.ch then some (acc, c)
      else do
        let (gap, c) ← plainGap indent c.fuel gap c
        if !inFlow && c.column < indent then some (acc, c)
        else plainWords inFlow indent fuel acc gap c

/-- The plain scalar at the cursor. -/
def readPlain (inFlow : Bool) (indent : Int) (c : Cursor) : Option (String × Cursor) :=
  if inFlow && c.column < indent then none
  else (plainWords inFlow indent c.fuel [] {} c).map fun (acc, c) => (String.ofList acc.reverse, c)

/-! ## Quoted scalars -/

/-- The characters that a backslash and one more character stand for. -/
def escapes : List (Char × Char) :=
  [('0', '\x00'), ('a', '\x07'), ('b', '\x08'), ('t', '\t'), ('\t', '\t'), ('n', '\n'),
    ('v', '\x0b'), ('f', '\x0c'), ('r', '\r'), ('e', '\x1b'), (' ', ' '), ('"', '"'),
    ('/', '/'), ('\\', '\\'), ('N', '\u0085'), ('_', '\u00a0'), ('L', '\u2028'),
    ('P', '\u2029')]

/-- How many hexadecimal digits follow a backslash and a letter. -/
def hexEscapes : List (Char × Nat) := [('x', 2), ('u', 4), ('U', 8)]

/-- The character that `n` hexadecimal digits at the front give by its code point. -/
def hexChar? (n : Nat) (cs : List Char) : Option Char := do
  let digits := cs.take n
  if digits.length < n then none
  else
    let code ← Text.readNat? 16 Text.hexDigit? digits
    if code.isValidChar then some (Char.ofNat code) else none

/-- The character of the escape at the cursor, and how many characters the escape has. -/
def readEscape (c : Cursor) : Option (Char × Nat) :=
  match escapes.lookup (c.peek 1), hexEscapes.lookup (c.peek 1) with
  | some e, _ => some (e, 2)
  | none, some n => (hexChar? n (c.left.drop 2)).map (·, n + 2)
  | none, none => none

/-- The quote around a scalar. -/
inductive Quote where
  | single
  | double
deriving DecidableEq, Repr

/-- The character of a quote. -/
def Quote.char : Quote → Char
  | .single => '\''
  | .double => '"'

/-- The rest of a word in quotes. `acc` holds what was read, last first. The gap after it has begun
when an escaped line break ended the word. -/
def quotedWord (quote : Quote) :
    (fuel : Nat) → (acc : List Char) → Cursor → Option (List Char × Gap × Cursor)
  | 0, _, _ => none
  | fuel + 1, acc, c =>
    if endsWord c.ch then some (acc, {}, c)
    else if quote = .single && c.ch = '\'' && c.peek 1 = '\'' then
      quotedWord quote fuel ('\'' :: acc) (c.pass 2)
    else if c.ch = quote.char then some (acc, {}, c)
    else if quote = .double && c.ch = '\\' then
      if isBreak (c.peek 1) then some (acc, { escaped := true }, (c.pass 1).passBreak)
      else do
        let (e, size) ← readEscape c
        quotedWord quote fuel (e :: acc) (c.pass size)
    else quotedWord quote fuel (c.ch :: acc) (c.pass 1)

/-- The rest of the gap after a word in quotes. On a new line there may be no tab left of
`indent`. -/
def quotedGap (indent : Int) : (fuel : Nat) → Gap → Cursor → Option (Gap × Cursor)
  | 0, _, _ => none
  | fuel + 1, gap, c =>
    if isBlank c.ch then
      if !gap.isBroken then
        quotedGap indent fuel { gap with blanks := c.ch :: gap.blanks } (c.passBlanks 1)
      else if c.ch = '\t' && c.column < indent then none
      else quotedGap indent fuel gap (c.passBlanks 1)
    else if isBreak c.ch then quotedGap indent fuel gap.broken c.passBreak
    else some (gap, c)

/-- The rest of a quoted scalar, up to its closing quote. `acc` holds what was read, last first. No
line is indented less than `indent`. -/
def quotedWords (quote : Quote) (indent : Int) :
    (fuel : Nat) → (acc : List Char) → Cursor → Option (List Char × Cursor)
  | 0, _, _ => none
  | fuel + 1, acc, c =>
    if c.atDocumentMark || c.ch = endMark || c.column < indent then none
    else do
      let (acc, gap, c) ← quotedWord quote c.fuel acc c
      if c.ch = quote.char then some (acc, c.pass 1)
      else
        let (gap, c) ← quotedGap indent c.fuel gap c
        quotedWords quote indent fuel (gap.text ++ acc) c

/-- Whether a quoted scalar that began on a line may end before the cursor. In a flow collection the
collection goes on, or a value begins. Elsewhere only the value of a key on one line begins. -/
def endsQuoted (inFlow : Bool) (line : Nat) (c : Cursor) : Bool :=
  endsLine c.ch || (inFlow && c.ch ∈ [',', ']', '\x7d', ':']) || (c.ch = ':' && line = c.line)

/-- The quoted scalar at the cursor, and the comment after it. -/
def readQuoted (quote : Quote) (inFlow : Bool) (indent : Int) (c : Cursor) :
    Option (String × Cursor) := do
  let (acc, after) ← quotedWords quote indent c.fuel [] (c.pass 1)
  let (_, after) ← after.passTrail true
  if endsQuoted inFlow c.line after then some (String.ofList acc.reverse, after) else none

end Rebac.Yaml
