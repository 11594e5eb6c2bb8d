import Rebac.Text.Affix

/-! # Schemes -/

namespace Rebac.Url

/-- What a scheme says about the rest of an address. -/
inductive SchemeKind where
  /-- A host of the network follows. -/
  | network
  /-- A path of the file system follows, perhaps after a host. -/
  | file
  /-- The scheme says nothing. -/
  | other
deriving DecidableEq, Repr

/-- The ports of the schemes of the network, where an address names none. -/
def defaultPorts : List (String × Nat) :=
  [("http", 80), ("https", 443), ("ws", 80), ("wss", 443), ("ftp", 21)]

/-- The kind of a scheme. -/
def SchemeKind.of (scheme : String) : SchemeKind :=
  if (defaultPorts.lookup scheme).isSome then .network
  else if scheme = "file" then .file
  else .other

/-- Whether `c` separates the parts of a path. A backslash does so where the scheme is known. -/
def SchemeKind.isSlash (kind : SchemeKind) (c : Char) : Bool :=
  c = '/' || (c = '\\' && kind ≠ .other)

/-- Whether `c` ends the path. -/
def endsPath (c : Char) : Bool := c = '?' || c = '#'

/-- The scheme and what follows its colon. -/
def takeScheme? (cs : List Char) : Option (String × List Char) :=
  let isPart (c : Char) : Bool := c.isAlphanum || c = '+' || c = '-' || c = '.'
  match cs.takeWhile isPart, cs.dropWhile isPart with
  | c :: more, ':' :: rest =>
    if c.isAlpha then some (Text.asciiLower (String.ofList (c :: more)), rest) else none
  | _, _ => none

end Rebac.Url
