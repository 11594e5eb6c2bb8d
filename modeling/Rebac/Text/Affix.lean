/-! # Beginnings and ends of texts -/

namespace Rebac.Text

/-- Whether `s` begins with `lead`. -/
def beginsWith (s lead : String) : Bool := lead.toList.isPrefixOf s.toList

/-- Whether `s` ends with `tail`. -/
def endsWith (s tail : String) : Bool := tail.toList.isSuffixOf s.toList

/-- What follows `lead` in `s`, when `s` begins with it. -/
def afterLead? (s lead : String) : Option String :=
  if beginsWith s lead then some (String.ofList (s.toList.drop lead.length)) else none

/-- What comes before `tail` in `s`, when `s` ends with it. -/
def beforeTail? (s tail : String) : Option String :=
  if endsWith s tail then some (String.ofList (s.toList.take (s.length - tail.length))) else none

/-- `s` with its ASCII capitals in lower case. -/
def asciiLower (s : String) : String := String.ofList (s.toList.map Char.toLower)

/-- `s` with its ASCII small letters in upper case. -/
def asciiUpper (s : String) : String := String.ofList (s.toList.map Char.toUpper)

end Rebac.Text
