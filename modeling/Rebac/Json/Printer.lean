import Rebac.Decimal.Layout
import Rebac.Json.Basic
import Rebac.Text.Quoted

/-! # Writing JSON text

The compact form: no spaces, members in their order, and only what must be escaped is escaped. -/

namespace Rebac.Json

/-- One character inside a string. -/
def escapeChar (c : Char) : List Char :=
  if c = '"' then ['\\', '"']
  else if c = '\\' then ['\\', '\\']
  else if c = '\n' then ['\\', 'n']
  else if c = '\r' then ['\\', 'r']
  else if c = '\t' then ['\\', 't']
  else if c = '\x08' then ['\\', 'b']
  else if c = '\x0c' then ['\\', 'f']
  else if c.toNat < 0x20 then
    let digits := Text.hexDigits c.toNat
    ['\\', 'u'] ++ List.replicate (4 - digits.length) '0' ++ digits
  else [c]

/-- A string with its quotes. -/
def printString (s : String) : String :=
  "\"" ++ String.ofList (s.toList.flatMap escapeChar) ++ "\""

mutual

/-- The text of a value. -/
def print : Json → String
  | .null => "null"
  | .bool b => if b then "true" else "false"
  | .int i => toString i
  | .real x => x.toText .json
  | .str s => printString s
  | .arr items => "[" ++ ",".intercalate (printItems items) ++ "]"
  | .obj members => "\x7b" ++ ",".intercalate (printMembers members) ++ "\x7d"

/-- The text of each item. -/
def printItems : List Json → List String
  | [] => []
  | j :: rest => j.print :: printItems rest

/-- The text of each member. -/
def printMembers : List (String × Json) → List String
  | [] => []
  | (name, j) :: rest => (printString name ++ ":" ++ j.print) :: printMembers rest

end

end Rebac.Json
