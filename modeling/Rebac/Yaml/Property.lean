import Rebac.Text.Digit
import Rebac.Yaml.Cursor

/-! # Properties and directives

The names and tags in front of values, and the directives in front of documents. -/

namespace Rebac.Yaml

/-! ## Names -/

/-- Whether `c` can be part of the name of an anchor. -/
def isAnchorChar (c : Char) : Bool := !endsWord c && !isFlowMark c && c ≠ '\ufeff'

/-- The name after the `&` of an anchor or the `*` of an alias. -/
def readAnchorName (c : Cursor) : Option (String × Cursor) :=
  let c := c.pass 1
  match c.taken isAnchorChar with
  | [] => none
  | name => some (String.ofList name, c.pass name.length)

/-! ## Tags -/

/-- Whether `c` can be part of a tag that is written out. -/
def isUriChar (c : Char) : Bool :=
  c.isAlphanum || c = '-' || "#;/?:@&=+$,_.!~*'()[]%".toList.contains c

/-- Whether `c` can be part of a tag. -/
def isTagChar (c : Char) : Bool := isUriChar c && !isFlowMark c && c ≠ '!'

/-- The byte of a percent sign and two digits at the cursor. -/
def uriByte? (c : Cursor) : Option Nat :=
  if c.ch = '%' then do return 16 * (← Text.hexDigit? (c.peek 1)) + (← Text.hexDigit? (c.peek 2))
  else none

/-- How many bytes a character has that begins with a byte. -/
def uriWidth? (byte : Nat) : Option Nat :=
  if byte < 0x80 then some 1
  else if byte / 0x20 = 6 then some 2
  else if byte / 0x10 = 14 then some 3
  else if byte / 8 = 30 then some 4
  else none

/-- The further bytes of an escaped character, put behind `code`. -/
def uriTail : (count code : Nat) → Cursor → Option (Nat × Cursor)
  | 0, code, c => some (code, c)
  | count + 1, code, c => do
    let byte ← uriByte? c
    if byte / 0x40 = 2 then uriTail count (256 * code + byte) (c.pass 3) else none

/-- The escaped character at the cursor. Its bytes make up its number. -/
def uriEscape? (c : Cursor) : Option (Char × Cursor) := do
  let byte ← uriByte? c
  let (code, c) ← uriTail ((← uriWidth? byte) - 1) byte (c.pass 3)
  if code.isValidChar then some (Char.ofNat code, c) else none

/-- The characters of a class at the cursor, with their escapes undone. -/
def uriText (inClass : Char → Bool) : (fuel : Nat) → Cursor → Option (List Char × Cursor)
  | 0, _ => none
  | fuel + 1, c =>
    if !inClass c.ch then some ([], c)
    else do
      let (first, c) ← if c.ch = '%' then uriEscape? c else some (c.ch, c.pass 1)
      let (rest, c) ← uriText inClass fuel c
      return (first :: rest, c)

/-- A tag: the handle that stands for its first part, and the rest. -/
structure Tag where
  handle : String
  rest : String
deriving DecidableEq, Repr

/-- The handle at the cursor: an exclamation mark, and perhaps a name and a second one. -/
def readHandle (c : Cursor) : Option (List Char × Cursor) :=
  if c.ch ≠ '!' then none
  else
    let c := c.pass 1
    let name := c.taken isNameChar
    let c := c.pass name.length
    if c.ch = '!' then some ('!' :: name ++ ['!'], c.pass 1) else some ('!' :: name, c)

/-- Whether the text is a handle with two exclamation marks. -/
def isClosedHandle (handle : List Char) : Bool := 2 ≤ handle.length && handle.getLast? = some '!'

/-- The tag at the cursor, without regard to what follows it. -/
def readTagText (c : Cursor) : Option (Tag × Cursor) := do
  if c.peek 1 = '<' then
    let (rest, c) ← uriText isUriChar c.fuel (c.pass 2)
    if c.ch = '>' then return (⟨"", String.ofList rest⟩, c.pass 1) else none
  else
    let (handle, c) ← readHandle c
    let (rest, c) ← uriText isTagChar c.fuel c
    match isClosedHandle handle, rest with
    | true, [] => none
    | true, rest => return (⟨String.ofList handle, String.ofList rest⟩, c)
    | false, rest =>
      match handle.drop 1 ++ rest with
      | [] => return (⟨"", "!"⟩, c)
      | rest => return (⟨"!", String.ofList rest⟩, c)

/-- The tag at the cursor. -/
def readTag (inFlow : Bool) (c : Cursor) : Option (Tag × Cursor) := do
  let (tag, c) ← readTagText c
  if endsWord c.ch || (inFlow && isFlowMark c.ch) then some (tag, c) else none

/-! ## Directives -/

/-- A directive. One of a name that is not known stands for no handle. -/
inductive Directive where
  | version
  | handle (handle expansion : String)
deriving DecidableEq, Repr

/-- Passes one to nine digits. -/
def passVersionPart (c : Cursor) : Option Cursor :=
  let size := (c.taken Char.isDigit).length
  if 1 ≤ size && size ≤ 9 then some (c.pass size) else none

/-- The expansion of a handle at the cursor. -/
def readExpansion (c : Cursor) : Option (List Char × Cursor) := do
  if c.ch = '!' then
    let (rest, c) ← uriText isUriChar c.fuel (c.pass 1)
    return ('!' :: rest, c)
  else if isTagChar c.ch then uriText isUriChar c.fuel c
  else none

/-- Passes the blanks at the cursor. -/
def passSpace (c : Cursor) : Cursor := c.passBlanks (c.taken isBlank).length

/-- The directive after its name. -/
def readDirectiveValue (name : List Char) (c : Cursor) : Option (Directive × Cursor) := do
  if name = "YAML".toList then
    let c ← passVersionPart (passSpace c)
    if c.ch = '.' then return (.version, ← passVersionPart (c.pass 1)) else none
  else if name = "TAG".toList then
    let (handle, c) ← readHandle (passSpace c)
    if handle ≠ ['!'] && !isClosedHandle handle then none
    else
      let (expansion, c) ← readExpansion (passSpace c)
      if endsWord c.ch then
        return (.handle (String.ofList handle) (String.ofList expansion), c)
      else none
  else return (.handle "" "", c.passComment)

/-- The directive at the cursor, with its line. -/
def readDirective (c : Cursor) : Option (Directive × Cursor) := do
  let c := c.pass 1
  let name := c.taken isNameChar
  let c := c.pass name.length
  if name = [] || !endsWord c.ch then none
  else
    let (directive, c) ← readDirectiveValue name c
    let (_, c) ← c.passTrail true
    if endsLine c.ch then some (directive, c.passBreak) else none

end Rebac.Yaml
