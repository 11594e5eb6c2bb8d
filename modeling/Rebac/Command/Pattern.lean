import Rebac.Text.Digit

/-! # Patterns

Which texts are patterns of characters. A pattern has no counted repetitions here, as its text never
holds a closing brace. -/

namespace Rebac.Command.Pattern

/-- What an escape stands for. -/
inductive Escape where
  | literal (c : Char)
  | many
  /-- A place between characters. -/
  | edge

/-- The character of `n` hexadecimal digits at the front, and the rest. -/
def hexadecimal? (n : Nat) (cs : List Char) : Option (Escape × List Char) := do
  if (cs.take n).length < n then none
  else
    let code ← Text.readNat? 16 Text.hexDigit? (cs.take n)
    if code.isValidChar then some (.literal (Char.ofNat code), cs.drop n) else none

/-- The escape after a backslash, and the rest. Edges of words are no part of a pattern. -/
def escape? : List Char → Option (Escape × List Char)
  | [] => none
  | 'x' :: rest => hexadecimal? 2 rest
  | 'u' :: rest => hexadecimal? 4 rest
  | 'U' :: rest => hexadecimal? 8 rest
  | 'p' :: c :: rest | 'P' :: c :: rest =>
    if c ∈ ['C', 'L', 'M', 'N', 'P', 'S', 'Z'] then some (.many, rest) else none
  | c :: rest =>
    if c ∈ ['d', 's', 'w', 'D', 'S', 'W'] then some (.many, rest)
    else if c ∈ ['A', 'z'] then some (.edge, rest)
    else if c ∈ ['a', 'f', 't', 'n', 'r', 'v'] then some (.literal c, rest)
    else if c.isAlphanum || c = '<' || c = '>' || c.toNat ≤ 0x20 || 0x7f ≤ c.toNat then none
    else some (.literal c, rest)

/-- A member of a class: one character, or many behind an escape. -/
def classMember? : List Char → Option (Option Char × List Char)
  | '\\' :: rest =>
    match escape? rest with
    | some (.literal c, rest) => some (some c, rest)
    | some (.many, rest) => some (none, rest)
    | _ => none
  | c :: rest => some (some c, rest)
  | [] => none

/-- What may stand at the front of a class: a negation, dashes, and else a closing bracket. -/
def classFront (cs : List Char) : List Char :=
  let cs := match cs with
    | '^' :: rest => rest
    | cs => cs
  match cs with
  | '-' :: rest => rest.dropWhile (· = '-')
  | ']' :: rest => rest
  | cs => cs

/-- The text after classes of which `depth` are open. The ends of a range are in order. -/
def afterClass? : (fuel depth : Nat) → List Char → Option (List Char)
  | 0, _, _ => none
  | _, 0, cs => some cs
  | fuel + 1, depth + 1, cs =>
    match cs with
    | '[' :: rest => afterClass? fuel (depth + 2) (classFront rest)
    | ']' :: rest => afterClass? fuel depth rest
    | cs => do
      let (low, rest) ← classMember? cs
      match rest with
      | '-' :: next :: rest =>
        if next = ']' || next = '-' then afterClass? fuel (depth + 1) ('-' :: next :: rest)
        else
          let (high, rest) ← classMember? (next :: rest)
          if (← low) ≤ (← high) then afterClass? fuel (depth + 1) rest else none
      | rest => afterClass? fuel (depth + 1) rest

/-- Whether the letters are flags, each once, perhaps with some of them behind one minus sign. -/
def areFlags (letters : List Char) : Bool :=
  letters ≠ [] && letters.getLast? ≠ some '-' && letters.eraseDups.length = letters.length &&
    letters.all fun c => c ∈ ['i', 'm', 's', 'U', 'u', 'R', 'x', '-']

/-- Whether the text can be the name of a group. -/
def isGroupName : List Char → Bool
  | [] => false
  | c :: rest => (c.isAlpha || c = '_') &&
    rest.all fun c => c.isAlphanum || c ∈ ['_', '.', '[', ']']

/-- The text after the front of a group behind its question mark, and whether the group is open. -/
def groupFront? (cs : List Char) : Option (Bool × List Char) :=
  let cs := match cs with
    | 'P' :: rest => rest
    | cs => cs
  match cs with
  | '<' :: rest =>
    if isGroupName (rest.takeWhile (· ≠ '>')) then
      (rest.dropWhile (· ≠ '>')).tail?.map (true, ·)
    else none
  | ':' :: rest => some (true, rest)
  | cs =>
    if areFlags (cs.takeWhile fun c => c ≠ ':' && c ≠ ')') then
      match cs.dropWhile fun c => c ≠ ':' && c ≠ ')' with
      | ':' :: rest => some (true, rest)
      | _ :: rest => some (false, rest)
      | [] => none
    else none

/-- Whether the rest of a text is a pattern in which `depth` groups are open. What stands before it
may be repeated or not. -/
def isRest : (fuel depth : Nat) → (repeatable : Bool) → List Char → Bool
  | 0, _, _, _ => false
  | _, depth, _, [] => depth = 0
  | fuel + 1, depth, repeatable, c :: rest =>
    match c, rest with
    | '(', '?' :: rest =>
      match groupFront? rest with
      | some (opens, rest) => isRest fuel (if opens then depth + 1 else depth) false rest
      | none => false
    | '(', rest => isRest fuel (depth + 1) false rest
    | ')', rest => depth ≠ 0 && isRest fuel (depth - 1) true rest
    | '|', rest => isRest fuel depth false rest
    | '[', rest =>
      match afterClass? (rest.length + 2) 1 (classFront rest) with
      | some rest => isRest fuel depth true rest
      | none => false
    | '\\', rest =>
      match escape? rest with
      | some (_, rest) => isRest fuel depth true rest
      | none => false
    | '\x7b', _ => false
    | c, rest =>
      if c ∈ ['*', '+', '?'] then
        repeatable && isRest fuel depth true (if rest.head? = some '?' then rest.tail else rest)
      else isRest fuel depth true rest

end Pattern

/-- Whether a text is a pattern. -/
def isPattern (text : String) : Bool := Pattern.isRest (text.length + 1) 0 false text.toList

end Rebac.Command
