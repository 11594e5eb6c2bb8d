import Rebac.Text.Digit
import Rebac.Yaml.Cursor

/-! # Block scalars

The indented lines under `|` or `>`. Under `|` line breaks stay, and under `>` a single one between
lines that begin with no blank becomes a space. -/

namespace Rebac.Yaml

/-- What becomes of the line breaks at the end of a block. -/
inductive Chomping where
  | strip
  | clip
  | keep
deriving DecidableEq, Repr

/-- The head of a block scalar. -/
structure BlockHead where
  literal : Bool
  chomping : Chomping := .clip
  /-- How much further the lines are indented, when it is said. -/
  increment : Nat := 0
deriving Repr

/-- The chomping that a character asks for. -/
def chomping? : Char → Option Chomping
  | '+' => some .keep
  | '-' => some .strip
  | _ => none

/-- Takes a chomping character, if one is there. -/
def takeChomping (head : BlockHead) (c : Cursor) : BlockHead × Cursor :=
  match chomping? c.ch with
  | some chomping => ({ head with chomping }, c.pass 1)
  | none => (head, c)

/-- Takes a digit other than zero for the increment, if a digit is there. -/
def takeIncrement (head : BlockHead) (c : Cursor) : Option (BlockHead × Cursor) :=
  match Text.digit? c.ch with
  | some 0 => none
  | some n => some ({ head with increment := n }, c.pass 1)
  | none => some (head, c)

/-- The head of the block scalar at the cursor, up to the end of its line. The two parts may come in
either order. -/
def readBlockHead (c : Cursor) : Option (BlockHead × Cursor) := do
  let (head, c) := takeChomping { literal := c.ch = '|' } (c.pass 1)
  let (head, c) ← takeIncrement head c
  let (head, c) :=
    if head.chomping = .clip && head.increment ≠ 0 then takeChomping head c else (head, c)
  let (_, c) ← c.passTrail true
  if endsLine c.ch then some (head, c) else none

/-- Passes empty lines, and the spaces of the next line up to a column. -/
def passIndent (column : Nat) : (fuel breaks : Nat) → Cursor → Nat × Cursor
  | 0, breaks, c => (breaks, c)
  | fuel + 1, breaks, c =>
    let c := c.passBlanks (min (c.taken (· = ' ')).length (column - c.column))
    if isBreak c.ch then passIndent column fuel (breaks + 1) c.passBreak else (breaks, c)

/-- Passes empty lines and the spaces of the first line with content. The widest of these lines sets
the indentation of the block. -/
def passFirstIndent : (fuel widest breaks : Nat) → Cursor → Nat × Nat × Cursor
  | 0, widest, breaks, c => (widest, breaks, c)
  | fuel + 1, widest, breaks, c =>
    let c := c.passBlanks (c.taken (· = ' ')).length
    let widest := max widest c.column
    if isBreak c.ch then passFirstIndent fuel widest (breaks + 1) c.passBreak
    else (widest, breaks, c)

/-- The lines of a block as far as they are read. -/
structure BlockText where
  /-- What was read, last character first. -/
  acc : List Char := []
  /-- Whether a line break is read that has no place yet. -/
  pending : Bool := false
  /-- The empty lines after it. -/
  breaks : Nat := 0
  /-- Whether the last line began with a blank. -/
  blankLed : Bool := false

namespace BlockText

/-- The line breaks that are pending, as they are. -/
def pendingBreaks (t : BlockText) : Nat := (if t.pending then 1 else 0) + t.breaks

/-- One more line. -/
def addLine (literal : Bool) (line : List Char) (t : BlockText) : BlockText :=
  let blankLed := isBlank (line.headD endMark)
  let between :=
    if !literal && t.pending && !t.blankLed && !blankLed then
      if t.breaks = 0 then [' '] else List.replicate t.breaks '\n'
    else List.replicate t.pendingBreaks '\n'
  { acc := line.reverse ++ between ++ t.acc, blankLed }

end BlockText

/-- The lines of a block that are indented by `column`. -/
def readBlockLines (literal : Bool) (column : Nat) :
    (fuel : Nat) → BlockText → Cursor → BlockText × Cursor
  | 0, t, c => (t, c)
  | fuel + 1, t, c =>
    if c.column ≠ column || c.ch = endMark || (column = 0 && c.atLoneMark '.') then (t, c)
    else
      let line := c.taken fun ch => !endsLine ch
      let t := t.addLine literal line
      let c := c.pass line.length
      if c.ch = endMark then (t, c)
      else
        let (breaks, c) := passIndent column c.fuel 0 c.passBreak
        readBlockLines literal column fuel { t with pending := true, breaks } c

/-- The text of a block without content, of which the line breaks were read. -/
def emptyBlock (chomping : Chomping) (breaks : Nat) : List Char :=
  match chomping with
  | .strip => []
  | .clip => ['\n']
  | .keep => List.replicate (max breaks 1) '\n'

/-- The text of a block at its end, with the line breaks that its chomping leaves. -/
def chomped (chomping : Chomping) (column : Nat) (t : BlockText) (c : Cursor) : List Char :=
  let last :=
    if chomping = .strip then []
    else
      (if c.ch = endMark && max column 1 ≤ c.column then ['\n'] else []) ++
        (if t.pending then ['\n'] else [])
  (if chomping = .keep then List.replicate t.breaks '\n' else []) ++ last ++ t.acc

/-- The block scalar at the cursor, inside what is indented by `indent`. -/
def readBlock (indent : Int) (c : Cursor) : Option (String × Cursor) := do
  let (head, after) ← readBlockHead c
  let after := after.passBreak
  if after.ch = '\t' then none
  else
    let (column, breaks, after) :=
      if head.increment = 0 then
        let (widest, breaks, after) := passFirstIndent after.fuel 0 0 after
        let column := max widest (indent + 1).toNat
        (if 0 < indent then max column 1 else column, breaks, after)
      else
        let column := (max indent 0).toNat + head.increment
        let (breaks, after) := passIndent column after.fuel 0 after
        (column, breaks, after)
    if after.ch = endMark then
      let text := if after.line = c.line then [] else emptyBlock head.chomping breaks
      some (String.ofList text, after)
    else if after.column < column && indent < after.column then none
    else
      let (t, after) := readBlockLines head.literal column after.fuel { breaks } after
      some (String.ofList (chomped head.chomping column t after).reverse, after)

end Rebac.Yaml
