import Rebac.Url.Host
import Rebac.Url.Scheme

/-! # Authorities

What stands between the two slashes and the path: who asks, the host and the port. -/

namespace Rebac.Url

/-- Who asks, in percent form. -/
structure Credentials where
  user : List Char := []
  password : List Char := []
deriving DecidableEq, Repr

namespace Credentials

/-- Whether nobody is named. -/
def isEmpty (c : Credentials) : Bool := c.user.isEmpty && c.password.isEmpty

/-- The text of credentials in an address. -/
def text (c : Credentials) : String :=
  if c.isEmpty then ""
  else
    let password := if c.password.isEmpty then [] else ':' :: c.password
    String.ofList (c.user ++ password ++ ['@'])

/-- The characters of credentials that stand in percent form. -/
def escapes (c : Char) : Bool :=
  c ∈ [' ', '"', '#', '<', '>', '?', '\x60', '\x7b', '\x7d', '/', ':', ';', '=', '@', '[', '\\',
    ']', '^', '|']

/-- The credentials in a text: the password follows the first colon. -/
def ofText (cs : List Char) : Credentials :=
  ⟨Text.percentEncode escapes (cs.takeWhile (· ≠ ':')),
    Text.percentEncode escapes ((cs.dropWhile (· ≠ ':')).drop 1)⟩

/-- The credentials that stay in the address of a request. Those that are texts leave it. -/
def kept (c : Credentials) : Credentials :=
  let isText (cs : List Char) : Bool := (Text.percentText? cs).isSome
  if isText c.user && (!c.user.isEmpty || isText c.password) then {} else c

end Credentials

/-- What stands between the two slashes and the path. -/
structure Authority where
  credentials : Credentials := {}
  host : Option Host := none
  port : Option Nat := none
deriving DecidableEq, Repr

namespace Authority

/-- The host and the port, which an address without a host leaves empty. -/
def hostText (a : Authority) : String :=
  ((a.host.map Host.text).getD "") ++ ((a.port.map fun n => ":" ++ toString n).getD "")

/-- The text of an authority. -/
def text (a : Authority) : String := a.credentials.text ++ a.hostText

/-- Whether `c` ends an authority. -/
def isEnd (kind : SchemeKind) (c : Char) : Bool := kind.isSlash c || endsPath c

/-- The credentials, up to the last sign for them, and what follows. Where the sign comes first,
something other than a path has to follow, if anything does. -/
def takeCredentials? (kind : SchemeKind) (cs : List Char) : Option (Credentials × List Char) :=
  let region := cs.takeWhile (!isEnd kind ·)
  if region.contains '@' then
    let host := (region.reverse.takeWhile (· ≠ '@')).reverse
    let named := region.take (region.length - host.length - 1)
    let rest := cs.drop (named.length + 1)
    if named.isEmpty && rest.head?.any (isEnd kind) then none
    else some (Credentials.ofText named, rest)
  else some ({}, cs)

/-- The host, up to a colon outside brackets, and what follows. -/
def takeHost (kind : SchemeKind) (isInside : Bool) : List Char → List Char × List Char
  | [] => ([], [])
  | c :: rest =>
    if isEnd kind c || (c = ':' && !isInside) then ([], c :: rest)
    else
      let (host, rest) := takeHost kind (c = '[' || (isInside && c ≠ ']')) rest
      (c :: host, rest)

/-- The port after its colon, unless it is empty or the one that the scheme implies, and what
follows. -/
def takePort? (scheme : String) (cs : List Char) : Option (Option Nat × List Char) :=
  let digits := cs.takeWhile Char.isDigit
  let rest := cs.dropWhile Char.isDigit
  if rest.head?.any (fun c => !endsPath c && c ≠ '/' && c ≠ '\\') then none
  else
    match Text.readNat? 10 Text.digit? digits with
    | none => some (none, rest)
    | some port =>
      if 65535 < port then none
      else some (if defaultPorts.lookup scheme = some port then none else some port, rest)

/-- The authority at the start of a text, and what follows. -/
def take? (scheme : String) (cs : List Char) : Option (Authority × List Char) := do
  let kind := SchemeKind.of scheme
  let (credentials, cs) ← takeCredentials? kind cs
  let (name, cs) := takeHost kind false cs
  let host ← if kind = .other then Host.ofOpaque? name else (Host.ofNetwork? name).map some
  let (port, rest) ← match cs with
    | ':' :: rest => if host.isNone then none else takePort? scheme rest
    | _ => some (none, cs)
  if host.isNone && !credentials.isEmpty then none
  else some (⟨credentials, host, port⟩, rest)

end Authority

end Rebac.Url
