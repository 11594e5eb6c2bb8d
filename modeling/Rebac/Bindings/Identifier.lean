import Rebac.Text.Affix

/-! # Identifiers

The identifiers of the bindings. A keyword is written raw where it may be, and the keywords that
name paths, which may not, get an underscore at their end. -/

namespace Rebac.Bindings

/-- The keywords that may be written as raw identifiers. -/
def rawKeywords : List String :=
  ["abstract", "as", "async", "await", "become", "box", "break", "const", "continue", "do",
    "dyn", "else", "enum", "extern", "false", "final", "fn", "for", "gen", "if", "impl", "in",
    "let", "loop", "macro", "match", "mod", "move", "mut", "override", "priv", "pub", "ref",
    "return", "static", "struct", "trait", "true", "try", "type", "typeof", "unsafe", "unsized",
    "use", "virtual", "where", "while", "yield"]

/-- The keywords that may not be written raw. -/
def pathKeywords : List String := ["self", "Self", "super", "crate", "_"]

/-- Whether `c` may start an identifier. -/
def isIdentifierStart (c : Char) : Bool := c.isAlpha || c = '_'

/-- Whether `c` may stand inside an identifier. -/
def isIdentifierPart (c : Char) : Bool := c.isAlphanum || c = '_'

/-- Whether `name` has the form of an identifier, in ASCII letters. -/
def isIdentifier (name : String) : Bool :=
  match name.toList with
  | [] => false
  | c :: rest => isIdentifierStart c && rest.all isIdentifierPart

/-- The identifier of a field, argument or module called `name`. -/
def valueIdentifier? (name : String) : Option String :=
  if name ∈ pathKeywords then some (name ++ "_")
  else if !isIdentifier name then none
  else if name ∈ rawKeywords then some ("r#" ++ name)
  else some name

/-- The identifier of a type or variant called `name`. -/
def typeIdentifier? (name : String) : Option String :=
  if name ∈ pathKeywords then some (name ++ "_")
  else if isIdentifier name then some name
  else none

/-- The constant that holds the chain of a relation. -/
def chainConstant (relation : String) : String := Text.asciiUpper relation ++ "_CHAIN"

end Rebac.Bindings
