import Rebac.Url.Authority
import Rebac.Url.Path

/-! # Addresses

An absolute URL in its normal form: the scheme and the host in lower case, the default port left
out, dot segments of the path resolved, and characters that may not stand as they are in percent
form. -/

namespace Rebac

/-- An absolute address. -/
structure Url where
  scheme : String
  /-- What stands between two slashes and the path. -/
  authority : Option Url.Authority
  path : String
  query : Option String
  fragment : Option String
deriving DecidableEq, Repr

namespace Url

/-- A query or fragment after its mark. -/
def marked (mark : String) : Option String → String
  | some s => mark ++ s
  | none => ""

/-- The path and the query, which a request names. -/
def target (u : Url) : String := u.path ++ marked "?" u.query

/-- What stands between the scheme and the path. Without an authority, a path that begins with two
slashes is kept from looking like one. -/
def pathLead (u : Url) : String :=
  match u.authority with
  | some authority => "//" ++ authority.text
  | none => if Text.beginsWith u.path "//" then "/." else ""

/-- The text of an address. -/
def text (u : Url) : String :=
  u.scheme ++ ":" ++ u.pathLead ++ u.target ++ marked "#" u.fragment

/-- The host of an address. -/
def host? (u : Url) : Option Host := u.authority.bind Authority.host

/-- The address without the credentials that leave it when a request is made. -/
def withoutCredentials (u : Url) : Url :=
  { u with authority := u.authority.map fun a => { a with credentials := a.credentials.kept } }

/-- Whether requests can be sent with the scheme of the address. -/
def isWeb (u : Url) : Bool := u.scheme = "http" || u.scheme = "https"

/-- The characters that a name may hold, but not in a request. -/
def isUnsendable (c : Char) : Bool := c ∈ ['"', '\x60', '\x7b', '\x7d']

/-- The length in bytes of the longest address that a request can name. -/
def maxLength : Nat := 65534

/-- Whether a request can name the address. -/
def isSendable (u : Url) : Bool :=
  u.isWeb && u.text.utf8ByteSize ≤ maxLength &&
    (u.authority.map Authority.hostText).all (!·.toList.any isUnsendable)

end Url

end Rebac
