import Rebac.Yaml.Block
import Rebac.Yaml.Property
import Rebac.Yaml.Word

/-! # Tokens

A text is cut into tokens: scalars, properties and marks, and the openings and closings of blocks,
which follow from how lines are indented. A key is known by the colon after it, so the place of a
token that may begin one is kept until the colon comes or cannot come any more. -/

namespace Rebac.Yaml

/-- A token. -/
inductive Token where
  | streamEnd
  | documentStart
  | documentEnd
  | directive (d : Directive)
  | blockList
  | blockMap
  | blockEnd
  | flowList
  | flowListEnd
  | flowMap
  | flowMapEnd
  | blockEntry
  | flowEntry
  | key
  | value
  | alias (name : String)
  | anchor (name : String)
  | tag (t : Tag)
  /-- A scalar. A quoted one and a block are not plain. -/
  | scalar (plain : Bool) (text : String)
deriving DecidableEq, Repr

/-- A token that may begin a key. -/
structure KeyStart where
  /-- Whether a colon may still come. -/
  possible : Bool := false
  /-- Whether a colon must come. -/
  required : Bool := false
  /-- The number of the token. -/
  token : Nat := 0
  index : Nat := 0
  line : Nat := 0
  column : Nat := 0

/-- An indentation that is left again. -/
structure Level where
  /-- The indentation around it. -/
  outer : Int
  /-- Whether a block ends with it. -/
  endsBlock : Bool

/-- Where the cutting of a text stands. -/
structure Lexer where
  cursor : Cursor
  tokens : Array Token := #[]
  /-- The possible key of each flow collection around the cursor, the innermost first, and of the
  block around them. -/
  keys : List KeyStart := [{}]
  keyAllowed : Bool := true
  indent : Int := -1
  /-- The indentations around the cursor, the innermost first. -/
  levels : List Level := []
  /-- How many flow collections are around the cursor. -/
  flowLevel : Nat := 0
  /-- Where a colon begins a value even without a blank after it. -/
  adjacent : Nat := 0
  /-- Whether a flow map was opened since the last one that a list implied was closed. -/
  mapOpened : Bool := false
  /-- For each flow list around the cursor, the innermost first, whether it implies a map. -/
  implied : List Bool := []
  /-- Whether the last token is a property at the start of its line. -/
  property : Bool := false
  finished : Bool := false

namespace Lexer

/-! ## Keys and indentation -/

/-- Whether the cursor is inside a flow collection. -/
def inFlow (s : Lexer) : Bool := s.flowLevel ≠ 0

/-- One more token. -/
def push (t : Token) (s : Lexer) : Lexer :=
  { s with tokens := s.tokens.push t, property := false }

/-- One more token, in front of the token of a number. -/
def insert (number : Nat) (t : Token) (s : Lexer) : Lexer :=
  { s with tokens := s.tokens.insertIdxIfInBounds number t }

/-- The possible key of the innermost collection. -/
def key (s : Lexer) : KeyStart := s.keys.headD {}

/-- Gives up the possible key of the innermost collection. -/
def dropKey (s : Lexer) : Lexer :=
  match s.keys with
  | [] => s
  | k :: rest => { s with keys := { k with possible := false } :: rest }

/-- Gives up the possible key, which must not be required. -/
def dropOptionalKey (s : Lexer) : Option Lexer :=
  if s.key.possible && s.key.required then none else some s.dropKey

/-- Gives up the keys that a colon cannot follow any more: outside flow collections a key stands on
one line and has at most 1024 characters. -/
def dropStaleKeys (s : Lexer) : Option Lexer := do
  let keys ← s.keys.mapM fun k =>
    if k.possible && !s.inFlow &&
        (k.line < s.cursor.line || k.index + 1024 < s.cursor.index) then
      if k.required then none else some { k with possible := false }
    else some k
  return { s with keys }

/-- Notes that the next token may begin a key. At the indentation of a block it must. -/
def noteKey (s : Lexer) : Option Lexer :=
  if !s.keyAllowed then some s
  else do
    let required := !s.inFlow && s.indent = s.cursor.column &&
      match s.levels with
      | l :: _ => l.endsBlock
      | [] => false
    let s ← s.dropOptionalKey
    let k : KeyStart :=
      ⟨true, required, s.tokens.size, s.cursor.index, s.cursor.line, s.cursor.column⟩
    return { s with keys := k :: s.keys.drop 1 }

/-- Leaves levels up to one that the column still belongs to. -/
def leaveLevels (column : Int) : List Level → Lexer → Lexer
  | [], s => { s with levels := [] }
  | l :: rest, s =>
    if s.indent ≤ column then { s with levels := l :: rest }
    else
      let s := { s with indent := l.outer }
      leaveLevels column rest (if l.endsBlock then s.push .blockEnd else s)

/-- Ends the blocks that a column does not belong to any more. -/
def unindent (column : Int) (s : Lexer) : Lexer :=
  if s.inFlow then s else leaveLevels column s.levels s

/-- Leaves the levels that end no block. -/
def leaveLoose : List Level → Lexer → Lexer
  | [], s => { s with levels := [] }
  | l :: rest, s =>
    if l.endsBlock then { s with levels := l :: rest }
    else leaveLoose rest { s with indent := l.outer }

/-- Opens a block at a column that is right of the one around it. Its token goes in front of the
token of a number, when there is one. -/
def indentTo (column : Nat) (number : Option Nat) (t : Token) (s : Lexer) : Lexer :=
  if s.inFlow then s
  else
    let s := match s.levels with
      | l :: rest =>
        if s.indent ≤ column && !l.endsBlock then { s with indent := l.outer, levels := rest }
        else s
      | [] => s
    if (column : Int) ≤ s.indent then s
    else
      let s := { s with levels := ⟨s.indent, true⟩ :: s.levels, indent := column }
      match number with
      | some n => s.insert n t
      | none => s.push t

/-- Asks that what follows in a block be indented by one column more. -/
def indentContent (s : Lexer) : Lexer :=
  match s.levels with
  | l :: _ =>
    if !s.inFlow && l.endsBlock then
      { s with levels := ⟨s.indent, false⟩ :: s.levels, indent := s.indent + 1 }
    else s
  | [] => s

/-! ## Between tokens -/

/-- Moves the cursor. -/
def at' (c : Cursor) (s : Lexer) : Lexer := { s with cursor := c }

/-- Passes the trail of a token. -/
def passTrail (s : Lexer) : Option Lexer := (s.cursor.passTrail true).map fun (_, c) => s.at' c

/-- Passes a line break, after which outside flow collections a key may stand. -/
def passBreak (s : Lexer) : Lexer :=
  { s with cursor := s.cursor.passBreak, keyAllowed := s.keyAllowed || !s.inFlow }

/-- Passes blanks, comments and line breaks. In a block a tab may not indent. -/
def toToken : (fuel : Nat) → Lexer → Option Lexer
  | 0, _ => none
  | fuel + 1, s =>
    let c := s.cursor
    if c.ch = '\t' && !s.levels.isEmpty && c.fresh && c.column < s.indent then do
      let (_, c) ← c.passTrail true
      if endsLine c.ch then toToken fuel (s.at' c) else none
    else if isBlank c.ch then toToken fuel (s.at' (c.passBlanks 1))
    else if isBreak c.ch then toToken fuel s.passBreak
    else if c.ch = '#' then toToken fuel (s.at' c.passComment)
    else some s

/-! ## Tokens -/

/-- Ends the text. No key may be missing its colon. -/
def readEnd (s : Lexer) : Option Lexer :=
  if s.keys.any fun k => k.required && k.possible then none
  else
    let keys := s.keys.map fun k => { k with possible := false }
    let s := ({ s with keys }.unindent (-1)).push .streamEnd
    some { s with keyAllowed := false, finished := true }

/-- Ends all blocks in front of a mark at the start of a line. -/
def closeBlocks (s : Lexer) : Option Lexer :=
  (s.unindent (-1)).dropOptionalKey.map fun s => { s with keyAllowed := false }

/-- Reads a directive. -/
def readDirective (s : Lexer) : Option Lexer := do
  let s ← s.closeBlocks
  let (d, c) ← Yaml.readDirective s.cursor
  return (s.at' c).push (.directive d)

/-- Reads the mark that begins or ends a document. Behind the one that ends it the line is empty. -/
def readDocumentMark (s : Lexer) : Option Lexer := do
  let opens := s.cursor.ch = '-'
  let s ← s.closeBlocks
  let s := (s.at' (s.cursor.pass 3)).push (if opens then .documentStart else .documentEnd)
  if opens then return s
  else
    let s ← s.passTrail
    if endsLine s.cursor.ch then some s else none

/-- The deepest that flow collections nest. -/
def maxFlowLevel : Nat := 255

/-- Opens a flow collection, which may begin a key. -/
def openFlow (t : Token) (s : Lexer) : Option Lexer := do
  let s ← s.noteKey
  let s := s.indentContent
  if maxFlowLevel ≤ s.flowLevel then none
  else
    let isMap := t = .flowMap
    let s := { s with
      keys := {} :: s.keys
      flowLevel := s.flowLevel + 1
      keyAllowed := true
      mapOpened := s.mapOpened || isMap
      implied := if isMap then s.implied else false :: s.implied
      cursor := s.cursor.pass 1 }
    return (← s.passTrail).push t

/-- Closes the map that the innermost list implies, if it does. -/
def closeImplied (s : Lexer) : Lexer :=
  match s.implied with
  | true :: rest => { s.push .flowMapEnd with implied := false :: rest, mapOpened := false }
  | _ => s

/-- Closes a flow collection, which may itself be a key in another one. -/
def closeFlow (t : Token) (s : Lexer) : Option Lexer := do
  let s ← s.dropOptionalKey
  let s := if s.inFlow then { s with flowLevel := s.flowLevel - 1, keys := s.keys.drop 1 } else s
  let s := { s with keyAllowed := false }
  let s := if t = .flowListEnd then
      let s := s.closeImplied
      { s with implied := s.implied.drop 1 }
    else s
  let s ← (s.at' (s.cursor.pass 1)).passTrail
  return (if s.inFlow then { s with adjacent := s.cursor.index } else s).push t

/-- Reads the comma of a flow collection. -/
def readComma (s : Lexer) : Option Lexer := do
  let s := { ← s.dropOptionalKey with keyAllowed := true }
  let s := s.closeImplied
  return (← (s.at' (s.cursor.pass 1)).passTrail).push .flowEntry

/-- Reads the dash of an item. On one line only spaces may stand between two dashes. -/
def readDash (s : Lexer) : Option Lexer := do
  let column := s.cursor.column
  if s.inFlow || !s.keyAllowed || (s.property && column = 0 && -1 < s.indent) then none
  else
    let s := (s.at' (s.cursor.pass 1)).indentTo column none .blockList
    let (blanks, c) ← s.cursor.passTrail true
    if blanks.contains '\t' && c.ch = '-' && endsWord (c.peek 1) then none
    else
      let (_, c) ← c.passTrail false
      let s := s.at' c
      let s := if isBreak c.ch || isFlowMark c.ch then s.indentContent else s
      let s := (← s.dropOptionalKey).push .blockEntry
      return { s with keyAllowed := true }

/-- Passes spaces, comments and line breaks, of which there must be one, behind the mark of a
key. -/
def passKeyGap (s : Lexer) : (fuel : Nat) → (passed : Bool) → Option Lexer
  | 0, _ => none
  | fuel + 1, passed =>
    if s.cursor.ch = ' ' then (s.at' (s.cursor.passBlanks 1)).passKeyGap fuel true
    else if isBreak s.cursor.ch then s.passBreak.passKeyGap fuel true
    else if s.cursor.ch = '#' then (s.at' s.cursor.passComment).passKeyGap fuel passed
    else if passed && s.cursor.ch ≠ '\t' then some s
    else none

/-- Reads the question mark in front of a key. -/
def readKeyMark (s : Lexer) : Option Lexer := do
  if !s.inFlow && !s.keyAllowed then none
  else
    let s := if s.inFlow then { s with mapOpened := true }
      else s.indentTo s.cursor.column none .blockMap
    let s := { ← s.dropOptionalKey with keyAllowed := !s.inFlow }
    return (← (s.at' (s.cursor.pass 1)).passKeyGap s.cursor.fuel false).push .key

/-- Reads the colon in front of a value. A tab behind it does not divide it from a word. -/
def readColon (s : Lexer) : Option Lexer := do
  let key := s.key
  let start := s.cursor
  let implies := !s.implied.isEmpty && !s.mapOpened
  let s := if implies then { s with implied := true :: s.implied.drop 1 } else s
  let s := s.at' (s.cursor.pass 1)
  let s ← if s.cursor.ch = '\t' then do
      let (blanks, c) ← s.cursor.passTrail true
      if !blanks.contains ' ' && isNameChar c.ch then none else some (s.at' c)
    else some s
  if key.possible then
    if implies && key.line < start.line then none
    else
      let s := s.insert key.token .key
      let s := if implies then s.insert key.token .flowMap else s
      let s := s.indentTo key.column (some key.token) .blockMap
      let s := s.indentContent.dropKey.push .value
      return { s with keyAllowed := false }
  else
    let s := if implies then s.push .flowMap else s
    if s.inFlow then
      let s := s.push .value
      return { s with keyAllowed := false }
    else if !s.keyAllowed then none
    else
      let s := (s.indentTo start.column none .blockMap).indentContent.push .value
      return { s with keyAllowed := true }

/-- Reads a token that may begin a key and cannot follow one. -/
def readPart {α : Type} (read : Cursor → Option (α × Cursor)) (token : α → Token) (s : Lexer) :
    Option Lexer := do
  let s := { ← s.noteKey with keyAllowed := false }
  let (a, c) ← read s.cursor
  return (s.at' c).push (token a)

/-- Reads an anchor, an alias or a tag. -/
def readProperty {α : Type} (read : Cursor → Option (α × Cursor)) (token : α → Token) (s : Lexer) :
    Option Lexer :=
  (s.readPart read token).map fun after => { after with property := s.cursor.column = 0 }

/-- Reads a quoted scalar. In a flow collection its value may follow without a blank. -/
def readQuoted (quote : Quote) (s : Lexer) : Option Lexer := do
  let indent := s.indent
  let s ← s.readPart (Yaml.readQuoted quote s.inFlow indent) (.scalar false)
  let s ← s.toToken s.cursor.fuel
  return { s with adjacent := s.cursor.index, property := false }

/-- Reads a plain scalar. When it ends on a new line, a key may follow. -/
def readPlain (s : Lexer) : Option Lexer := do
  let s := { ← s.noteKey with keyAllowed := false }
  let s := leaveLoose s.levels s
  let (text, c) ← Yaml.readPlain s.inFlow (s.indent + 1) s.cursor
  let s := (s.at' c).push (.scalar true text)
  return { s with keyAllowed := c.fresh }

/-- Reads a block scalar, after which a key may follow. -/
def readBlock (s : Lexer) : Option Lexer := do
  let s := { ← s.noteKey with keyAllowed := true }
  let s := leaveLoose s.levels s
  let (text, c) ← Yaml.readBlock s.indent s.cursor
  return (s.at' c).push (.scalar false text)

/-- Whether a colon at the cursor begins a value. -/
def startsValue (s : Lexer) : Bool :=
  let next := s.cursor.peek 1
  endsWord next || (s.inFlow && (isFlowMark next || s.cursor.index = s.adjacent))

/-- Reads the token at the cursor, which is not at the end. -/
def readToken (s : Lexer) : Option Lexer :=
  let loose := endsWord (s.cursor.peek 1)
  match s.cursor.ch with
  | '[' => s.openFlow .flowList
  | '\x7b' => s.openFlow .flowMap
  | ']' => s.closeFlow .flowListEnd
  | '\x7d' => s.closeFlow .flowMapEnd
  | ',' => s.readComma
  | '*' => s.readPart readAnchorName .alias
  | '&' => s.readProperty readAnchorName .anchor
  | '!' => s.readProperty (readTag s.inFlow) .tag
  | '\'' => s.readQuoted .single
  | '"' => s.readQuoted .double
  | '%' | '@' | '\x60' => none
  | '-' => if loose then s.readDash else s.readPlain
  | '?' => if loose then s.readKeyMark else s.readPlain
  | ':' => if s.startsValue then s.readColon else s.readPlain
  | '|' | '>' => if s.inFlow then s.readPlain else s.readBlock
  | _ => s.readPlain

/-- Reads the next token, with the blocks that end in front of it. -/
def step (s : Lexer) : Option Lexer := do
  let s ← s.toToken s.cursor.fuel
  let s ← s.dropStaleKeys
  let s := s.unindent s.cursor.column
  if s.cursor.ch = endMark then s.readEnd
  else if s.cursor.column = 0 && s.cursor.ch = '%' then s.readDirective
  else if s.cursor.atDocumentMark then s.readDocumentMark
  else if s.cursor.column < s.indent then none
  else s.readToken

/-- Reads tokens up to the end. -/
def run : (fuel : Nat) → Lexer → Option (List Token)
  | 0, _ => none
  | fuel + 1, s => do
    let s ← s.step
    if s.finished then return s.tokens.toList else run fuel s

end Lexer

/-- The tokens of a text. -/
def Token.scan (text : String) : Option (List Token) :=
  let c := Cursor.ofText text
  Lexer.run c.fuel { cursor := c }

end Rebac.Yaml
