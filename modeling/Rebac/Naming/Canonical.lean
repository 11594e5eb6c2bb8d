import Rebac.Text.Blank
import Rebac.Text.Case

/-! # Canonical names

A type, relation or member may be spelt in several ways. Its canonical form is lower snake case;
its Pascal form names it in the bindings. Both work character by character, with the full Unicode
letter case. -/

namespace Rebac.Naming

/-- Whether an upper-case character starts a word, seen from its two neighbours: it does after a
lower-case letter or an ASCII digit, and it does after an upper-case letter when a lower-case one
follows, which ends an acronym. -/
def startsWord (prev next : Option Char) : Bool :=
  match prev with
  | none => false
  | some p =>
    if Text.isLowercase p || p.isDigit then true
    else Text.isUppercase p && next.any Text.isLowercase

/-- What one character becomes: a hyphen or blank an underscore, an upper-case character its
lower-case form with an underscore in front where a word starts, any other character itself. -/
def canonicalStep (prev : Option Char) (c : Char) (next : Option Char) : List Char :=
  if c = '-' || Text.isBlank c then ['_']
  else if Text.isUppercase c then
    if startsWord prev next then '_' :: Text.lowerForm c else Text.lowerForm c
  else [c]

/-- The canonical form of the characters after `prev`. -/
def canonicalFrom : Option Char → List Char → List Char
  | _, [] => []
  | prev, c :: rest => canonicalStep prev c rest.head? ++ canonicalFrom (some c) rest

/-- The canonical form of `name`: `HTTPServer` is `http_server`, `free-trial Plan` is
`free_trial_plan`. -/
def canonical (name : String) : String :=
  String.ofList (canonicalFrom none name.toList)

/-- Whether `c` separates the words of a name. -/
def isSeparator (c : Char) : Bool := c = '_' || c = '-' || Text.isBlank c

/-- The Pascal form of the remaining characters, when `atStart` says that a word starts here. -/
def pascalFrom : Bool → List Char → List Char
  | _, [] => []
  | atStart, c :: rest =>
    if isSeparator c then pascalFrom true rest
    else if atStart then Text.upperForm c ++ pascalFrom false rest
    else c :: pascalFrom false rest

/-- The words of `name`, joined with the first character of each in upper case: `crm_company` is
`CrmCompany`. -/
def pascal (name : String) : String :=
  String.ofList (pascalFrom true name.toList)

end Rebac.Naming
