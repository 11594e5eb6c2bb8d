import Rebac.Json.Reader

/-! # Values of no interest

A value that nobody reads only has to be well formed: it may nest to any depth, its numbers may be
of any size, and its escapes may name half of a pair of surrogates. -/

namespace Rebac.Json

open Text (hexDigit?)

/-- The text after the rest of a string, whose opening quote is gone. -/
def skipString : List Char → Option (List Char)
  | [] => none
  | '"' :: rest => some rest
  | '\\' :: 'u' :: a :: b :: c :: d :: rest =>
    if [a, b, c, d].all fun c => (hexDigit? c).isSome then skipString rest else none
  | '\\' :: c :: rest => if (simpleEscape? c).isSome then skipString rest else none
  | c :: rest => if c.toNat < 0x20 then none else skipString rest

/-- The text after a value that holds no other value. -/
def skipAtom : List Char → Option (List Char)
  | 'n' :: rest => (readWord ['u', 'l', 'l'] rest).toOption
  | 't' :: rest => (readWord ['r', 'u', 'e'] rest).toOption
  | 'f' :: rest => (readWord ['a', 'l', 's', 'e'] rest).toOption
  | '"' :: rest => skipString rest
  | '-' :: rest => (readNumeral true rest).toOption.map (·.2.1)
  | cs => (readNumeral false cs).toOption.map (·.2.1)

/-- The text after the name of a member and its colon. -/
def skipName (cs : List Char) : Option (List Char) :=
  match skipSpace cs with
  | '"' :: rest => do
    match skipSpace (← skipString rest) with
    | ':' :: rest => some rest
    | _ => none
  | _ => none

/-- What an opening bracket began. -/
inductive Bracket where
  | list
  | object
deriving DecidableEq, Repr

mutual

/-- The text after a value and what remains of the values around it, which `around` lists from the
inside out. -/
def skipFrom : (fuel : Nat) → (around : List Bracket) → List Char → Option (List Char)
  | 0, _, _ => none
  | fuel + 1, around, cs =>
    match skipSpace cs with
    | '[' :: rest =>
      match skipSpace rest with
      | ']' :: rest => skipRest fuel around rest
      | rest => skipFrom fuel (.list :: around) rest
    | '\x7b' :: rest =>
      match skipSpace rest with
      | '\x7d' :: rest => skipRest fuel around rest
      | rest => (skipName rest).bind (skipFrom fuel (.object :: around))
    | cs => (skipAtom cs).bind (skipRest fuel around)

/-- The text after what remains of the values in `around`, behind one of their parts. -/
def skipRest : (fuel : Nat) → (around : List Bracket) → List Char → Option (List Char)
  | 0, _, _ => none
  | _, [], cs => some cs
  | fuel + 1, bracket :: around, cs =>
    match bracket, skipSpace cs with
    | .list, ']' :: rest => skipRest fuel around rest
    | .list, ',' :: rest => skipFrom fuel (.list :: around) rest
    | .object, '\x7d' :: rest => skipRest fuel around rest
    | .object, ',' :: rest => (skipName rest).bind (skipFrom fuel (.object :: around))
    | _, _ => none

end

/-- The text after a value. -/
def skipValue (cs : List Char) : Option (List Char) := skipFrom (2 * cs.length + 2) [] cs

end Rebac.Json
