import Rebac.Http.Body
import Rebac.Http.Exchange
import Rebac.Naming.Reference
import Rebac.Settings.Basic

/-! # The client

The engine behind an HTTP interface. A client knows the address of the interface, and perhaps a
store, an authorization model and a token. Large batches are sent in parts, and reads are followed
page by page. -/

namespace Rebac.Http

open Engine (Answer WriteRequest WriteReceipt ReadFilter)

/-- What a client knows. -/
structure Client where
  apiUrl : String
  storeId : Option String := none
  modelId : Option String := none
  token : Option String := none
deriving DecidableEq, Repr

namespace Client

/-- A client of the interface at an address, without the slashes at its end. -/
def ofUrl (apiUrl : String) : Client := { apiUrl := Text.dropEndWhile (· = '/') apiUrl }

/-- The client that a connection describes. -/
def ofConnection (c : Settings.Connection) : Client :=
  { ofUrl c.apiUrl with storeId := c.storeId, modelId := c.modelId, token := c.apiToken }

/-- The address of all stores. -/
def storesUrl (c : Client) : String := c.apiUrl ++ "/stores"

/-- The address of an operation on the store. -/
def storeUrl (c : Client) (operation : String) : Except Engine.Error String :=
  match c.storeId with
  | some id => .ok (c.storesUrl ++ "/" ++ id ++ "/" ++ operation)
  | none => .error .missingStore

/-- The failure that a status other than success means. -/
def statusError (status : Nat) (body : String) : Engine.Error :=
  let (code, message) := apiError body
  .api status (if code = "" then reasonPhrase status else code)
    (if message = "" then body else message)

/-- Sends a request: the body that comes back with success. -/
def send (c : Client) (method : Method) (url : String) (body : Option Json) (x : Exchange) :
    Except Engine.Error String × Exchange :=
  match x.send ⟨method, url, c.token, body⟩ with
  | (.error fault, x) => (.error (.transport fault), x)
  | (.ok (status, body), x) =>
    if isSuccess status then (.ok body, x) else (.error (statusError status body), x)

/-- Sends a body and reads what comes back. -/
def post {α : Type} (c : Client) (url : String) (body : Json) (read : String → Option α)
    (x : Exchange) : Except Engine.Error α × Exchange :=
  match c.send .post url (some body) x with
  | (.error e, x) => (.error e, x)
  | (.ok body, x) =>
    match read body with
    | some a => (.ok a, x)
    | none => (.error (.decode .body), x)

/-- `post` to an operation on the store. Without a store nothing is sent. -/
def postToStore {α : Type} (c : Client) (operation : String) (body : Json)
    (read : String → Option α) (x : Exchange) : Except Engine.Error α × Exchange :=
  match c.storeUrl operation with
  | .error e => (.error e, x)
  | .ok url => c.post url body read x

/-- Creates a store. From then on it is the client's store. -/
def createStore (c : Client) (name : String) (x : Exchange) :
    (Except Engine.Error String × Client) × Exchange :=
  match c.post c.storesUrl (createStoreBody name) (textField? "id") x with
  | (.ok id, x) => ((.ok id, { c with storeId := some id }), x)
  | (.error e, x) => ((.error e, c), x)

/-- Writes an authorization model. From then on it is the client's model. -/
def writeModel (c : Client) (model : Json) (x : Exchange) :
    (Except Engine.Error String × Client) × Exchange :=
  match c.postToStore "authorization-models" model (textField? "authorization_model_id") x with
  | (.ok id, x) => ((.ok id, { c with modelId := some id }), x)
  | (.error e, x) => ((.error e, c), x)

/-- Deletes the store. -/
def deleteStore (c : Client) (x : Exchange) : Except Engine.Error Unit × Exchange :=
  match c.storeId with
  | none => (.error .missingStore, x)
  | some id =>
    let (result, x) := c.send .delete (c.storesUrl ++ "/" ++ id) none x
    (result.map fun _ => (), x)

/-- Writes and deletes tuples in one request. -/
def postWrite (c : Client) (writes deletes : List Tuple) (x : Exchange) :
    Except Engine.Error Unit × Exchange :=
  c.postToStore "write" (writeBody writes deletes c.modelId)
    (fun body => (Json.readAsWritten? body).map fun _ => ()) x

/-- Sends writes, each given by its tuples, one after the other up to the first failure. -/
def postWrites (c : Client) :
    List (List Tuple × List Tuple) → Exchange → Except Engine.Error Unit × Exchange
  | [], x => (.ok (), x)
  | (writes, deletes) :: rest, x =>
    match c.postWrite writes deletes x with
    | (.ok (), x) => c.postWrites rest x
    | (.error e, x) => (.error e, x)

/-- The writes that a request is sent as: all in one, or each tuple on its own. -/
def parts (request : WriteRequest) : List (List Tuple × List Tuple) :=
  if request.transactional then [(request.writes, request.deletes)]
  else request.writes.map (fun t => ([t], [])) ++ request.deletes.map (fun t => ([], [t]))

/-- Writes and deletes tuples. -/
def write (c : Client) (request : WriteRequest) (x : Exchange) :
    Except Engine.Error WriteReceipt × Exchange :=
  let (result, x) := c.postWrites (parts request) x
  (result.map fun _ => ⟨request.writes, request.deletes⟩, x)

/-- Checks one relationship. -/
def check (c : Client) (item : CheckItem) (x : Exchange) : Except Engine.Error Bool × Exchange :=
  c.postToStore "check" (checkBody item c.modelId) checkVerdict? x

/-- The verdict of a batch on the check at `index`. -/
def batchVerdict (results : List (String × BatchResult)) (index : Nat) :
    Except Engine.Error Bool :=
  match Keyed.find? results (toString index) with
  | none => .error (.missingBatchResult index)
  | some result =>
    match result.errorMessage? with
    | some message => .error (.batchItem index message)
    | none => .ok result.allowed

/-- Checks one part of a batch, whose checks count from `offset`. -/
def checkPart (c : Client) (offset : Nat) (items : List CheckItem) (x : Exchange) :
    Except Engine.Error (List Bool) × Exchange :=
  match c.postToStore "batch-check" (batchBody offset items c.modelId) batchResults? x with
  | (.error e, x) => (.error e, x)
  | (.ok results, x) => ((List.range' offset items.length).mapM (batchVerdict results), x)

/-- How many checks one request may hold. -/
def maxBatchSize : Nat := 50

/-- The list in parts of `size`, each with its offset. The last part may be shorter. -/
def inParts {α : Type} (size : Nat) (xs : List α) : List (Nat × List α) :=
  (List.range ((xs.length + size - 1) / size)).map fun k =>
    (size * k, (xs.drop (size * k)).take size)

/-- Checks the parts of a batch one after the other, up to the first failure. -/
def checkParts (c : Client) :
    List (Nat × List CheckItem) → Exchange → Except Engine.Error (List Bool) × Exchange
  | [], x => (.ok [], x)
  | (offset, items) :: rest, x =>
    match c.checkPart offset items x with
    | (.error e, x) => (.error e, x)
    | (.ok verdicts, x) =>
      let (result, x) := c.checkParts rest x
      (result.map (verdicts ++ ·), x)

/-- Checks a batch. Nothing is sent for an empty one. -/
def checkBatch (c : Client) (items : List CheckItem) (x : Exchange) :
    Except Engine.Error (List Bool) × Exchange :=
  c.checkParts (inParts maxBatchSize items) x

/-- The objects of a type that a user has a relation to. -/
def listObjects (c : Client) (user relation objectType : String) (x : Exchange) :
    Except Engine.Error (List String) × Exchange :=
  c.postToStore "list-objects" (listObjectsBody user relation objectType c.modelId)
    listedObjects? x

/-- Reads the pages from a continuation on. A page without a continuation, or with an empty one, is
the last. Each page takes a response, so `fuel` is how many pages can come at most. -/
def readPages (c : Client) (filter : ReadFilter) :
    (fuel : Nat) → Option String → Exchange → Except Engine.Error (List Tuple) × Exchange
  | 0, _, x => (.error (.decode .body), x)
  | fuel + 1, continuation, x =>
    match c.postToStore "read" (readBody filter continuation) page? x with
    | (.error e, x) => (.error e, x)
    | (.ok page, x) =>
      match page.continuation with
      | none | some "" => (.ok page.tuples, x)
      | some token =>
        let (result, x) := c.readPages filter fuel (some token) x
        (result.map (page.tuples ++ ·), x)

/-- The stored tuples that a filter lets through, from all pages. -/
def read (c : Client) (filter : ReadFilter) (x : Exchange) :
    Except Engine.Error (List Tuple) × Exchange :=
  c.readPages filter (x.script.length + 1) none x

/-- The users of a type that have a relation to an object, which must be a reference. -/
def listUsers (c : Client) (object relation userType : String) (x : Exchange) :
    Except Engine.Error (List String) × Exchange :=
  match c.storeUrl "list-users" with
  | .error e => (.error e, x)
  | .ok url =>
    match Naming.splitReference object with
    | none => (.error (.invalidReference object), x)
    | some (objectType, id) =>
      c.post url (listUsersBody objectType id relation userType c.modelId) listedUsers? x

/-- A call of the client as a call of an engine. -/
def answered {α : Type} (call : Exchange → Except Engine.Error α × Exchange) (x : Exchange) :
    Answer α × Exchange :=
  let (result, x) := call x
  (.ofExcept result, x)

/-- The client as an engine. -/
def engine (c : Client) : Engine Exchange where
  write request := answered (c.write request)
  check item := answered (c.check item)
  checkBatch items := answered (c.checkBatch items)
  listObjects user relation objectType := answered (c.listObjects user relation objectType)
  listUsers object relation userType := answered (c.listUsers object relation userType)
  read filter := answered (c.read filter)

end Client

end Rebac.Http
