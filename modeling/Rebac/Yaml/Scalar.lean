import Rebac.Decimal.Extended
import Rebac.Text.Affix
import Rebac.Text.Case
import Rebac.Text.Digit

/-! # Scalars

A plain scalar stands for null, a truth value or a number when it is spelled like one, and else for
its own text. A quoted scalar is always a text. Every scalar but null can be taken for a text, and
many can be taken for a truth value. -/

namespace Rebac.Yaml

open Decimal (Extended)

/-- A value without parts. -/
inductive Scalar where
  | null
  | bool (b : Bool)
  | int (i : Int)
  | real (x : Extended)
  | text (s : String)
deriving DecidableEq, Repr

/-- The sign at the front, when there is one, and the rest. -/
def takeSign : List Char → Bool × List Char
  | '-' :: rest => (true, rest)
  | '+' :: rest => (false, rest)
  | rest => (false, rest)

/-- The integer in a text of digits after a sign, which must fit 64 bits. -/
def integer? (base : Nat) (digit : Char → Option Nat) (cs : List Char) : Option Int := do
  let (negative, digits) := takeSign cs
  let n ← Text.readNat? base digit digits
  let i : Int := if negative then -n else n
  if -9223372036854775808 ≤ i ∧ i ≤ 9223372036854775807 then some i else none

/-- The decimal integer in a text. -/
def decimal? (cs : List Char) : Option Int := integer? 10 Text.digit? cs

/-- The exponent that ends a text. There is none in an empty text. -/
def exponent? : List Char → Option Int
  | [] => some 0
  | c :: rest =>
    if c = 'e' ∨ c = 'E' then
      let (negative, digits) := takeSign rest
      (Text.readNat? 10 Text.digit? digits).map fun n => if negative then -n else n
    else none

/-- The number in a text: digits with or without a point and an exponent, or the name of one of the
numbers beyond the finite ones in any case. -/
def real? (cs : List Char) : Option Extended :=
  let (negative, cs) := takeSign cs
  match (Text.asciiLower (String.ofList cs)) with
  | "inf" | "infinity" => some (.infinite negative)
  | "nan" => some .undefined
  | _ => do
    let whole := cs.takeWhile Char.isDigit
    let rest := cs.dropWhile Char.isDigit
    let (fraction, rest) := match rest with
      | '.' :: more => (more.takeWhile Char.isDigit, more.dropWhile Char.isDigit)
      | rest => ([], rest)
    let digits := whole ++ fraction
    let n ← Text.readNat? 10 Text.digit? digits
    return .ofDecimal negative n digits.length ((← exponent? rest) - fraction.length)

/-- The spellings with a point that only look like numbers beyond the finite ones. -/
def dottedNames : List String :=
  [".inf", ".Inf", ".INF", "+.inf", "+.Inf", "+.INF", "-.inf", "-.Inf", "-.INF", ".nan", ".NaN",
    ".NAN"]

/-- The whole number that a spelling with a base or a plus sign gives. -/
def marked? : List Char → Option Int
  | '0' :: 'x' :: rest => integer? 16 Text.hexDigit? rest
  | '0' :: 'o' :: rest => integer? 8 (fun c => (Text.digit? c).filter (· < 8)) rest
  | '+' :: rest => decimal? rest
  | _ => none

/-- What a scalar is spelled like, or said to be. -/
inductive Kind where
  | null
  | bool (b : Bool)
  | int (i : Int)
  | real
  | text
deriving DecidableEq, Repr

/-- Whether a text is spelled like a number with a point or an exponent, or has one of the names
with a point. -/
def isReal (s : String) : Bool :=
  s ∈ dottedNames || (s.toList.any Char.isDigit && (real? s.toList).isSome)

namespace Kind

/-- The kind that a plain text is spelled like. -/
def ofPlain (s : String) : Kind :=
  match marked? s.toList with
  | some i => .int i
  | none =>
    match s with
    | "" | "~" | "null" => .null
    | "true" => .bool true
    | "false" => .bool false
    | _ =>
      match decimal? s.toList with
      | some i => .int i
      | none => if isReal s then .real else .text

/-- The kind that a plain text has under a name of the core tags. A text that is not spelled like
the name asks for has none. -/
def ofCore? (name s : String) : Option Kind :=
  match name with
  | "null" => if s = "~" || s = "null" then some .null else none
  | "bool" =>
    if s = "true" then some (.bool true) else if s = "false" then some (.bool false) else none
  | "int" => (decimal? s.toList).map .int
  | "float" => if isReal s then some .real else none
  | _ => some .text

end Kind

namespace Scalar

/-- The scalar of a kind with a spelling. The names with a point stand for nothing. -/
def ofKind? (kind : Kind) (spelling : String) : Option Scalar :=
  match kind with
  | .null => some .null
  | .bool b => some (.bool b)
  | .int i => some (.int i)
  | .real => if spelling ∈ dottedNames then none else (real? spelling.toList).map .real
  | .text => some (.text spelling)

/-- The scalar taken for a text. -/
def toText? : Scalar → Option String
  | .null => none
  | .bool b => some (if b then "true" else "false")
  | .int i => some (toString i)
  | .real x => some x.toText
  | .text s => some s

/-- The truth value that a word means, in any case. -/
def wordTruth? (word : String) : Option Bool :=
  let lower := String.ofList (word.toList.flatMap Text.lowerForm)
  if lower ∈ ["1", "true", "on", "yes"] then some true
  else if lower ∈ ["0", "false", "off", "no"] then some false
  else none

/-- The scalar taken for a truth value. Of the numbers zero alone is false. -/
def toBool? : Scalar → Option Bool
  | .null => none
  | .bool b => some b
  | .int i => some (i ≠ 0)
  | .real x => some x.isNonzero
  | .text s => wordTruth? s

end Scalar

end Rebac.Yaml
