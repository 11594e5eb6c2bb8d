import Rebac.Text.Percent
import Rebac.Url.Ipv4
import Rebac.Url.Ipv6
import Rebac.Url.Name

/-! # Hosts -/

namespace Rebac.Url

/-- What an address names as its host. -/
inductive Host where
  | name (label : String)
  | ipv4 (address : Ipv4)
  | ipv6 (address : Ipv6)
deriving DecidableEq, Repr

namespace Host

/-- The text of a host in an address. -/
def text : Host → String
  | .name label => label
  | .ipv4 address => address.text
  | .ipv6 address => "[" ++ address.text ++ "]"

/-- The host between brackets. -/
def bracketed? (cs : List Char) : Option Host :=
  if cs.getLast? = some ']' then (Ipv6.read? cs.dropLast).map .ipv6 else none

/-- The host of a scheme that knows about hosts: an address, or a name of the network. -/
def ofNetwork? : List Char → Option Host
  | '[' :: rest => bracketed? rest
  | cs => do
    let ascii ← asciiName? (← Text.percentText? cs)
    if ascii.isEmpty then none
    else if Ipv4.isMeant ascii then return .ipv4 (← Ipv4.ofName? ascii)
    else return .name (String.ofList ascii)

/-- The characters that no host holds. -/
def isRefused (c : Char) : Bool :=
  c ∈ [Char.ofNat 0, '\t', '\n', '\r', ' ', '#', '/', ':', '<', '>', '?', '@', '[', '\\', ']',
    '^', '|']

/-- The host of any other scheme, whose name is kept as it is. An empty text is no host. -/
def ofOpaque? : List Char → Option (Option Host)
  | [] => some none
  | '[' :: rest => (bracketed? rest).map some
  | cs =>
    if cs.any isRefused then none
    else some (some (.name (String.ofList (Text.percentEncode (fun _ => false) cs))))

end Host

end Rebac.Url
