import Rebac.Json.Number

/-! # Reading JSON text

The strict grammar: no comments, no trailing comma, no lone surrogate, no raw control character in
a string. A document is nested less than 128 levels deep. Repeated members are kept as written, and
`settled` puts them together. -/

namespace Rebac.Json

open Text (hexDigit?)

/-- Whether `c` may stand between tokens. -/
def isSpace (c : Char) : Bool := c = ' ' || c = '\t' || c = '\n' || c = '\r'

/-- The text after the spaces at its front. -/
def skipSpace (cs : List Char) : List Char := cs.dropWhile isSpace

/-- The number of four hexadecimal digits at the front. -/
def readUnit (cs : List Char) : Except Halt Nat :=
  match Text.readNat? 16 hexDigit? (cs.take 4) with
  | some n => if (cs.take 4).length = 4 then .ok n else .error ⟨.endInString, [], 0⟩
  | none =>
    if (bytesOf cs).length < 4 then .error ⟨.endInString, [], 0⟩ else .error ⟨.badEscape, cs, 4⟩

/-- The character a letter after a backslash stands for. -/
def simpleEscape? : Char → Option Char
  | '"' => some '"'
  | '\\' => some '\\'
  | '/' => some '/'
  | 'b' => some '\x08'
  | 'f' => some '\x0c'
  | 'n' => some '\n'
  | 'r' => some '\r'
  | 't' => some '\t'
  | _ => none

/-- Whether a unit is the first, or the second, of a surrogate pair. -/
def isHighSurrogate (n : Nat) : Bool := 0xd800 ≤ n && n < 0xdc00

@[inherit_doc isHighSurrogate]
def isLowSurrogate (n : Nat) : Bool := 0xdc00 ≤ n && n < 0xe000

/-- The character of a pair of surrogates, of which the first was `n`. -/
def readSecondUnit (n : Nat) : List Char → Except Halt Char
  | '\\' :: 'u' :: rest => do
    let m ← readUnit rest
    if isLowSurrogate m then
      return Char.ofNat (0x10000 + (n - 0xd800) * 0x400 + (m - 0xdc00))
    else throw ⟨.loneSurrogate, rest.drop 4, 0⟩
  | [] | ['\\'] => .error ⟨.endInString, [], 0⟩
  | '\\' :: rest => .error ⟨.noSecondSurrogate, rest, 1⟩
  | rest => .error ⟨.noSecondSurrogate, rest, 1⟩

/-- The character that an escape stands for, and how many characters it takes after its
backslash. -/
def readEscape : List Char → Except Halt (Char × Nat)
  | [] => .error ⟨.endInString, [], 0⟩
  | 'u' :: rest => do
    let n ← readUnit rest
    if isLowSurrogate n then throw ⟨.loneSurrogate, rest.drop 4, 0⟩
    else if isHighSurrogate n then return (← readSecondUnit n (rest.drop 4), 11)
    else return (Char.ofNat n, 5)
  | c :: rest =>
    match simpleEscape? c with
    | some e => .ok (e, 1)
    | none => .error ⟨.badEscape, c :: rest, 1⟩

/-- The rest of a string after its opening quote. `acc` holds the characters read, last first. -/
def readString (acc : List Char) : List Char → Except Halt (String × List Char)
  | [] => .error ⟨.endInString, [], 0⟩
  | '"' :: rest => .ok (String.ofList acc.reverse, rest)
  | '\\' :: rest =>
    match readEscape rest with
    | .ok (c, taken) => readString (c :: acc) (rest.drop taken)
    | .error h => .error h
  | c :: rest =>
    if c.toNat < 0x20 then .error ⟨.rawControl, rest, 0⟩ else readString (c :: acc) rest
termination_by cs => cs.length

/-- The text after the rest of a word. -/
def readWord : (word : List Char) → List Char → Except Halt (List Char)
  | [], cs => .ok cs
  | _ :: _, [] => .error ⟨.endInValue, [], 0⟩
  | w :: word, c :: rest => if c = w then readWord word rest else .error ⟨.badWord, c :: rest, 1⟩

mutual

/-- A value at the front of the text, which opens at most `depth` more levels. -/
def readValue : (fuel depth : Nat) → List Char → Except Halt (Json × List Char)
  | 0, _, cs => .error ⟨.endInValue, cs, 0⟩
  | fuel + 1, depth, cs =>
    match skipSpace cs with
    | [] => .error ⟨.endInValue, [], 0⟩
    | 'n' :: rest => (readWord ['u', 'l', 'l'] rest).map (.null, ·)
    | 't' :: rest => (readWord ['r', 'u', 'e'] rest).map (.bool true, ·)
    | 'f' :: rest => (readWord ['a', 'l', 's', 'e'] rest).map (.bool false, ·)
    | '"' :: rest => (readString [] rest).map fun (s, after) => (.str s, after)
    | '[' :: rest =>
      match depth with
      | 0 => .error ⟨.tooDeep, '[' :: rest, 1⟩
      | depth + 1 =>
        match skipSpace rest with
        | [] => .error ⟨.endInList, [], 0⟩
        | ']' :: after => .ok (.arr [], after)
        | after => readItems fuel depth [] after
    | '\x7b' :: rest =>
      match depth with
      | 0 => .error ⟨.tooDeep, '\x7b' :: rest, 1⟩
      | depth + 1 =>
        match skipSpace rest with
        | [] => .error ⟨.endInObject, [], 0⟩
        | '\x7d' :: after => .ok (.obj [], after)
        | after => readMembers fuel depth [] after
    | '-' :: rest => readNumber true rest
    | c :: rest =>
      if c.isDigit then readNumber false (c :: rest) else .error ⟨.noValue, c :: rest, 1⟩

/-- Items of an array up to its end. `acc` holds the items read, last first. -/
def readItems : (fuel depth : Nat) → List Json → List Char → Except Halt (Json × List Char)
  | 0, _, _, cs => .error ⟨.endInValue, cs, 0⟩
  | fuel + 1, depth, acc, cs =>
    match readValue fuel depth cs with
    | .error h => .error h
    | .ok (item, rest) =>
      match skipSpace rest with
      | [] => .error ⟨.endInList, [], 0⟩
      | ']' :: after => .ok (.arr (item :: acc).reverse, after)
      | ',' :: after =>
        match skipSpace after with
        | [] => .error ⟨.endInValue, [], 0⟩
        | ']' :: after => .error ⟨.trailingComma, ']' :: after, 1⟩
        | after => readItems fuel depth (item :: acc) after
      | left => .error ⟨.noListEnd, left, 1⟩

/-- Members of an object up to its end. `acc` holds the members read, last first. -/
def readMembers :
    (fuel depth : Nat) → List (String × Json) → List Char → Except Halt (Json × List Char)
  | 0, _, _, cs => .error ⟨.endInValue, cs, 0⟩
  | fuel + 1, depth, acc, cs =>
    match readMember fuel depth cs with
    | .error h => .error h
    | .ok (m, rest) =>
      match skipSpace rest with
      | [] => .error ⟨.endInObject, [], 0⟩
      | '\x7d' :: after => .ok (.obj (m :: acc).reverse, after)
      | ',' :: after =>
        match skipSpace after with
        | [] => .error ⟨.endInValue, [], 0⟩
        | '\x7d' :: after => .error ⟨.trailingComma, '\x7d' :: after, 1⟩
        | after => readMembers fuel depth (m :: acc) after
      | left => .error ⟨.noObjectEnd, left, 1⟩

/-- One member of an object. -/
def readMember : (fuel depth : Nat) → List Char → Except Halt ((String × Json) × List Char)
  | 0, _, cs => .error ⟨.endInValue, cs, 0⟩
  | fuel + 1, depth, cs =>
    match cs with
    | '"' :: afterQuote =>
      match readString [] afterQuote with
      | .error h => .error h
      | .ok (name, rest) =>
        match skipSpace rest with
        | [] => .error ⟨.endInObject, [], 0⟩
        | ':' :: afterColon =>
          (readValue fuel depth afterColon).map fun (value, rest) => ((name, value), rest)
        | left => .error ⟨.noColon, left, 1⟩
    | left => .error ⟨.keyNotString, left, 1⟩

end

/-- The levels a document may open. -/
def maxDepth : Nat := 127

/-- A whole document. -/
def readDocument (cs : List Char) : Except Halt Json := do
  let (value, rest) ← readValue (3 * cs.length + 3) maxDepth cs
  match skipSpace rest with
  | [] => return value
  | left => throw ⟨.trailingText, left, 1⟩

/-- The document a text holds, with repeated members as written, or the first fault. -/
def read (text : String) : Except Fault Json :=
  (readDocument text.toList).mapError (·.fault text.toList)

/-- The document a text holds, with repeated members as written. -/
def readAsWritten? (text : String) : Option Json := (readDocument text.toList).toOption

/-- The value a text holds. -/
def read? (text : String) : Option Json := (readAsWritten? text).map settled

end Rebac.Json
