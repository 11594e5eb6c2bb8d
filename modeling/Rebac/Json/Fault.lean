/-! # Faults in JSON text

Where a text stops being JSON, and why. Lines count from one; a column counts the bytes of its line
up to the fault. -/

namespace Rebac.Json

/-- Why a text is not JSON. -/
inductive Reason where
  | endInList
  | endInObject
  | endInString
  | endInValue
  | noColon
  | noListEnd
  | noObjectEnd
  | badWord
  | noValue
  | badEscape
  | badNumber
  | tooLarge
  | rawControl
  | keyNotString
  | loneSurrogate
  | noSecondSurrogate
  | trailingComma
  | trailingText
  | tooDeep
deriving DecidableEq, Repr

/-- The wording of a reason. -/
def Reason.message : Reason → String
  | .endInList => "EOF while parsing a list"
  | .endInObject => "EOF while parsing an object"
  | .endInString => "EOF while parsing a string"
  | .endInValue => "EOF while parsing a value"
  | .noColon => "expected `:`"
  | .noListEnd => "expected `,` or `]`"
  | .noObjectEnd => "expected `,` or `\x7d`"
  | .badWord => "expected ident"
  | .noValue => "expected value"
  | .badEscape => "invalid escape"
  | .badNumber => "invalid number"
  | .tooLarge => "number out of range"
  | .rawControl => "control character (\\u0000-\\u001F) found while parsing a string"
  | .keyNotString => "key must be a string"
  | .loneSurrogate => "lone leading surrogate in hex escape"
  | .noSecondSurrogate => "unexpected end of hex escape"
  | .trailingComma => "trailing comma"
  | .trailingText => "trailing characters"
  | .tooDeep => "recursion limit exceeded"

/-- Where reading halts: so many bytes into the text that is left. -/
structure Halt where
  reason : Reason
  left : List Char
  ahead : Nat := 0
deriving Repr

/-- A fault and its place. -/
structure Fault where
  reason : Reason
  line : Nat
  column : Nat
deriving DecidableEq, Repr

/-- The wording of a fault. -/
def Fault.message (f : Fault) : String :=
  f.reason.message ++ " at line " ++ toString f.line ++ " column " ++ toString f.column

/-- The bytes of a text. -/
def bytesOf (cs : List Char) : List UInt8 := cs.flatMap String.utf8EncodeChar

/-- The fault that a halt in a text means. -/
def Halt.fault (h : Halt) (text : List Char) : Fault :=
  let bytes := bytesOf text
  let before := bytes.take (bytes.length - (bytesOf h.left).length + h.ahead)
  { reason := h.reason
    line := before.count 10 + 1
    column := (before.reverse.takeWhile (· ≠ 10)).length }

end Rebac.Json
