import Rebac.Engine.Error
import Rebac.Http.Status
import Rebac.Json.Basic
import Rebac.Url.Reader

/-! # Exchanges

The other side of the client: a server that answers each request with the next response of a script,
and the log of the requests that reached it. -/

namespace Rebac.Http

open Engine (TransportFault)

/-- What is to be done at an address. -/
inductive Method where
  | post
  | delete
deriving DecidableEq, Repr

/-- A request as the client makes it. -/
structure Request where
  method : Method
  url : String
  token : Option String
  body : Option Json
deriving Repr

/-- A request as the server receives it. The authorization is the one that a token makes; the header
that credentials in an address make is left out. -/
structure Received where
  method : Method
  path : String
  authorization : Option String
  body : Option Json
deriving Repr

/-- A response of the server. It has no headers, so what a client does on its own because of one is
left out: a redirect, which tells its place in a header, is not followed here. -/
inductive Response where
  | reply (status : Nat) (body : String)
  /-- The connection is closed without an answer. -/
  | dropped
deriving DecidableEq, Repr

/-- The server and its script. -/
structure Exchange where
  /-- Whether the server takes connections at all. -/
  reachable : Bool := true
  /-- The responses to come. -/
  script : List Response := []
  /-- The requests received, in order. -/
  received : List Received := []
deriving Repr

/-- Whether a text can stand in a header. -/
def isHeaderText (s : String) : Bool :=
  s.toList.all fun c => c = '\t' || (0x20 ≤ c.toNat && c.toNat ≠ 0x7f)

/-- The value of the authorization header for a token. -/
def bearer (token : String) : String := "Bearer " ++ token

/-- The address of a request that can be sent. An address without a host, a token that no header can
hold, and a scheme or an address that no request can name are refused, in this order. -/
def Request.address (r : Request) : Except TransportFault Url :=
  match Url.read? r.url with
  | none => .error (.unbuildable none)
  | some url =>
    if url.host?.isNone then .error (.unbuildable (some url.text))
    else if !(r.token.all fun token => isHeaderText (bearer token)) then .error (.unbuildable none)
    else
      let url := url.withoutCredentials
      if url.isSendable then .ok url else .error (.unbuildable (some url.text))

/-- The response that follows the end of a script. -/
def exhausted : Response := .reply 501 "script exhausted"

/-- Sends a request: the status and the body that come back. -/
def Exchange.send (x : Exchange) (r : Request) : Except TransportFault (Nat × String) × Exchange :=
  match r.address with
  | .error fault => (.error fault, x)
  | .ok url =>
    if !x.reachable then (.error (.unsent url.text), x)
    else
      let after := { x with
        script := x.script.tail
        received := x.received ++ [⟨r.method, url.target, r.token.map bearer, r.body⟩] }
      match x.script.headD exhausted with
      | .reply status body => (.ok (status, body), after)
      | .dropped => (.error (.unsent url.text), after)

end Rebac.Http
