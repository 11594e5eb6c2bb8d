import Rebac.Access.Session
import Rebac.Http.Client

/-! # Sessions over HTTP

A session whose handles are clients. Calls that set up the store change the client: builders made
from then on use the changed one, and older ones keep theirs. -/

namespace Rebac.Http

open Access (Session)

/-- A call that sets up the store. -/
inductive Provision where
  | createStore (name : String)
  | writeModel (model : Json)
  | deleteStore
deriving Repr

/-- Runs a call of a client: what was named, and the client after it. -/
def Provision.run (p : Provision) (c : Client) (x : Exchange) :
    (Except Engine.Error (Option String) × Client) × Exchange :=
  match p with
  | .createStore name =>
    let ((result, c), x) := c.createStore name x
    ((result.map some, c), x)
  | .writeModel model =>
    let ((result, c), x) := c.writeModel model x
    ((result.map some, c), x)
  | .deleteStore =>
    let (result, x) := c.deleteStore x
    ((result.map fun _ => none, c), x)

/-- Sets up the store. Whether the call succeeds or not, the permissions are made anew for the
client from the settings of sending, so a choice made since then is forgotten. -/
def provision (sending : Settings.Sending) (p : Provision) (s : Session Client Exchange) :
    Except Engine.Error (Option String) × Session Client Exchange :=
  let ((result, client), state) := p.run s.permissions.handle s.state
  (result, { s with permissions := .ofSettings client sending, state })

/-- A session of a client and a server. -/
def session (permissions : Access.Permissions Client) (x : Exchange) : Session Client Exchange :=
  { engine := Client.engine, permissions, state := x }

end Rebac.Http
