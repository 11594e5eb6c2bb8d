import Rebac.Http.Session
import Rebac.Proofs.Http.Transcript
import Rebac.Proofs.Keyed

/-!
# Stores and their models

A client has one store and one model, and the calls that set up a store replace one of the two at a
time. So a model that was written to a store is still named in requests to a store that was created
later. The main statement says which store a request with a model goes to: the one that the model
was written to or configured with, until another store is created, and from then on that one.
-/

namespace Rebac

open Access (Direct)

/-- The state of an engine after a call. -/
def Access.Direct.after {σ : Type} (engine : Engine σ) (s : σ) : Direct → σ
  | .write request => (engine.write request s).2
  | .check item => (engine.check item s).2
  | .checkBatch items => (engine.checkBatch items s).2
  | .listObjects user relation objectType => (engine.listObjects user relation objectType s).2
  | .listUsers object relation userType => (engine.listUsers object relation userType s).2
  | .read filter => (engine.read filter s).2

/-- The operation on a store that a call asks for. -/
def Access.Direct.operation : Direct → String
  | .write _ => "write"
  | .check _ => "check"
  | .checkBatch _ => "batch-check"
  | .listObjects .. => "list-objects"
  | .listUsers .. => "list-users"
  | .read _ => "read"

/-- The calls of a session to its engine are these. -/
theorem Access.Session.runDirect_state {ε σ : Type} (s : Session ε σ) (call : Direct) :
    (s.runDirect call false).2.state = call.after s.current s.state := by
  have reached {α : Type} (answer : σ → Engine.Answer α × σ) :
      (attempt false answer s.state).2 = (answer s.state).2 := by
    simp only [attempt, Bool.false_eq_true, if_false]
    rcases answer s.state with ⟨_ | _ | _, after⟩ <;> rfl
  cases call <;> exact reached _

namespace Http

/-- The authorization model that a body names. -/
def namedModel? (body : Json) : Option String :=
  (body.get? "authorization_model_id").bind Json.str?

/-- The authorization model that a request names. -/
def Received.modelId? (request : Received) : Option String := request.body.bind namedModel?

theorem namedModel?_append {members : List (String × Json)}
    (unnamed : "authorization_model_id" ∉ Keyed.keys members) (modelId : Option String) :
    namedModel? (.obj (members ++ modelMember modelId)) = modelId := by
  rw [namedModel?, Json.get?, Keyed.find?_append, Keyed.find?_eq_none.mpr unnamed]
  cases modelId with
  | none => rfl
  | some id => simp [modelMember, optionalMember, Keyed.find?, Json.str?]

theorem namedModel?_writeBody (writes deletes : List Tuple) (modelId : Option String) :
    namedModel? (writeBody writes deletes modelId) = modelId := by
  refine namedModel?_append ?_ modelId
  cases writes <;> cases deletes <;> simp [tupleSection, Keyed.keys]

theorem namedModel?_checkBody (item : CheckItem) (modelId : Option String) :
    namedModel? (checkBody item modelId) = modelId := by
  refine namedModel?_append ?_ modelId
  cases context : item.context <;> simp [contextMember, optionalMember, context, Keyed.keys]

theorem namedModel?_batchBody (offset : Nat) (items : List CheckItem) (modelId : Option String) :
    namedModel? (batchBody offset items modelId) = modelId :=
  @namedModel?_append [_] (by simp [Keyed.keys]) modelId

theorem namedModel?_listObjectsBody (user relation objectType : String)
    (modelId : Option String) :
    namedModel? (listObjectsBody user relation objectType modelId) = modelId :=
  namedModel?_append (by simp [Keyed.keys]) modelId

theorem namedModel?_listUsersBody (objectType id relation userType : String)
    (modelId : Option String) :
    namedModel? (listUsersBody objectType id relation userType modelId) = modelId :=
  namedModel?_append (by simp [Keyed.keys]) modelId

/-- A read names no model. -/
theorem namedModel?_readBody (filter : Engine.ReadFilter) (continuation : Option String) :
    namedModel? (readBody filter continuation) = none := by
  cases continuation <;> simp [namedModel?, readBody, Json.get?, optionalMember, Keyed.find?]

namespace Client

/-! ## What a client sends -/

/-- The operations on a store that tuples, checks and queries need. -/
def operations : List String :=
  ["write", "check", "batch-check", "list-objects", "list-users", "read"]

theorem operation_mem (call : Direct) : call.operation ∈ operations := by
  cases call <;> simp [Access.Direct.operation, operations]

/-- A request goes to a store: its path is that of an operation on the store. -/
def AddressedTo (c : Client) (store : String) (request : Received) : Prop :=
  ∃ operation ∈ operations,
    ({ c with storeId := some store } : Client).target? operation = some request.path

instance (c : Client) (store : String) (request : Received) :
    Decidable (c.AddressedTo store request) :=
  inferInstanceAs (Decidable (∃ operation ∈ operations,
    ({ c with storeId := some store } : Client).target? operation = some request.path))

/-- A request of a client: it goes to the client's store, and names the client's model or none. -/
structure Issued (c : Client) (request : Received) : Prop where
  addressed : ∃ store, c.storeId = some store ∧ c.AddressedTo store request
  model : request.modelId? = none ∨ request.modelId? = c.modelId

/-- All requests between a state of the server and a later one are the client's. -/
def Issues (c : Client) (x x' : Exchange) : Prop :=
  ∃ requests, x.Took requests x' ∧ ∀ request ∈ requests, c.Issued request

variable {c : Client} {x y z : Exchange}

theorem Issues.refl (c : Client) (x : Exchange) : c.Issues x x := ⟨[], .refl x, by simp⟩

theorem Issues.trans (first : c.Issues x y) (later : c.Issues y z) : c.Issues x z := by
  obtain ⟨requests, took, each⟩ := first
  obtain ⟨requests', took', each'⟩ := later
  refine ⟨requests ++ requests', took.trans took', ?_⟩
  intro request mem
  rcases List.mem_append.mp mem with early | late
  · exact each request early
  · exact each' request late

/-- A request to a store has a store to go to. -/
theorem storeId_of_target? {operation target : String} (h : c.target? operation = some target) :
    ∃ store, c.storeId = some store := by
  cases stored : c.storeId with
  | some store => exact ⟨store, rfl⟩
  | none =>
    simp [target?, address?, storeUrl, stored, Except.toOption] at h

/-- A POST to the store is the client's, if its body names the client's model or none. -/
theorem issues_postToStore {α : Type} {operation : String} (known : operation ∈ operations)
    {body : Json} (named : namedModel? body = none ∨ namedModel? body = c.modelId)
    (read : String → Option α) (x : Exchange) :
    c.Issues x (c.postToStore operation body read x).2 := by
  rcases unsent_or_sent c operation x with unsent | ⟨target, sendable, reachable⟩
  · obtain ⟨e, failed⟩ := postToStore_unsent body read unsent
    rw [failed]
    exact Issues.refl c x
  · obtain ⟨took, -⟩ := postToStore_sent body read sendable reachable
    refine ⟨_, took, ?_⟩
    intro request mem
    obtain rfl := List.mem_singleton.mp mem
    obtain ⟨store, stored⟩ := storeId_of_target? sendable
    have same : ({ c with storeId := some store } : Client) = c := by
      cases c
      cases stored
      rfl
    exact ⟨⟨store, stored, operation, known, by rw [same]; exact sendable⟩, named⟩

/-- POSTs to one operation on the store, each with a body that names the client's model or none,
lead from a state of the server to another. -/
inductive Posts (c : Client) (operation : String) : Exchange → Exchange → Prop
  | refl (x : Exchange) : Posts c operation x x
  | post {α : Type} {body : Json}
      (named : namedModel? body = none ∨ namedModel? body = c.modelId) (read : String → Option α)
      {x y : Exchange} (later : Posts c operation (c.postToStore operation body read x).2 y) :
      Posts c operation x y

/-- One request is posted to the store of the client, or none, and the body names its model or none.
-/
theorem posts_postToStore {α : Type} {operation : String} {body : Json}
    (named : namedModel? body = none ∨ namedModel? body = c.modelId)
    (read : String → Option α) (x : Exchange) :
    c.Posts operation x (c.postToStore operation body read x).2 :=
  .post named read (.refl _)

theorem Posts.trans {operation : String} (first : c.Posts operation x y)
    (later : c.Posts operation y z) : c.Posts operation x z := by
  induction first with
  | refl => exact later
  | post named read _ ih => exact .post named read (ih later)

/-- Requests that are posted to one operation of the store are ones that the client may issue. -/
theorem Posts.issues {operation : String} (known : operation ∈ operations)
    (posts : c.Posts operation x y) : c.Issues x y := by
  induction posts with
  | refl x => exact Issues.refl c x
  | post named read _ ih => exact (issues_postToStore known named read _).trans ih

theorem posts_postWrites (parts : List (List Tuple × List Tuple)) (x : Exchange) :
    c.Posts "write" x (c.postWrites parts x).2 := by
  induction parts generalizing x with
  | nil => exact Posts.refl x
  | cons part parts ih =>
    obtain ⟨writes, deletes⟩ := part
    have first : c.Posts "write" x (c.postWrite writes deletes x).2 :=
      posts_postToStore (.inr (namedModel?_writeBody writes deletes c.modelId)) _ x
    rw [postWrites]
    rcases sent : c.postWrite writes deletes x with ⟨e | _, y⟩ <;> rw [sent] at first
    · exact first
    · exact first.trans (ih y)

theorem posts_checkParts (parts : List (Nat × List CheckItem)) (x : Exchange) :
    c.Posts "batch-check" x (c.checkParts parts x).2 := by
  induction parts generalizing x with
  | nil => exact Posts.refl x
  | cons part parts ih =>
    obtain ⟨offset, items⟩ := part
    have first : c.Posts "batch-check" x (c.checkPart offset items x).2 := by
      have posted : c.Posts "batch-check" x _ := posts_postToStore
        (.inr (namedModel?_batchBody offset items c.modelId)) batchResults? x
      unfold checkPart
      split <;> next sent => rw [sent] at posted; exact posted
    rw [checkParts]
    rcases sent : c.checkPart offset items x with ⟨e | verdicts, y⟩ <;> rw [sent] at first
    · exact first
    · exact first.trans (ih y)

/-- Every page of a read is asked for at the same place. By induction on the pages that are allowed.
-/
theorem posts_readPages (filter : Engine.ReadFilter) (fuel : Nat) (continuation : Option String)
    (x : Exchange) : c.Posts "read" x (c.readPages filter fuel continuation x).2 := by
  induction fuel generalizing continuation x with
  | zero => exact Posts.refl x
  | succ fuel ih =>
    have first : c.Posts "read" x _ :=
      posts_postToStore (.inl (namedModel?_readBody filter continuation)) page? x
    rw [readPages]
    rcases sent : c.postToStore "read" (readBody filter continuation) page? x with
      ⟨e | page, y⟩ <;> rw [sent] at first
    · exact first
    · simp only
      split
      · exact first
      · exact first
      · exact first.trans (ih _ y)

theorem posts_listUsers (object relation userType : String) (x : Exchange) :
    c.Posts "list-users" x (c.listUsers object relation userType x).2 := by
  cases split : Naming.splitReference object with
  | none =>
    simp only [listUsers, split]
    cases c.storeUrl "list-users" <;> exact Posts.refl x
  | some reference =>
    obtain ⟨objectType, id⟩ := reference
    have posted : c.Posts "list-users" x _ := posts_postToStore
      (.inr (namedModel?_listUsersBody objectType id relation userType c.modelId)) listedUsers? x
    simp only [listUsers, split]
    exact posted

/-- A call of the engine makes POSTs to its operation and nothing else. -/
theorem posts_call (c : Client) (x : Exchange) (call : Direct) :
    c.Posts call.operation x (call.after c.engine x) := by
  cases call with
  | write request => exact posts_postWrites (parts request) x
  | check item => exact posts_postToStore (.inr (namedModel?_checkBody item c.modelId)) _ x
  | checkBatch items => exact posts_checkParts _ x
  | listObjects user relation objectType =>
    exact posts_postToStore
      (.inr (namedModel?_listObjectsBody user relation objectType c.modelId)) _ x
  | listUsers object relation userType => exact posts_listUsers object relation userType x
  | read filter => exact posts_readPages filter (x.script.length + 1) none x

/-- Every call of the engine sends requests of the client and nothing else. -/
theorem issues_call (c : Client) (x : Exchange) (call : Direct) :
    c.Issues x (call.after c.engine x) :=
  (c.posts_call x call).issues (operation_mem call)

end Client

/-! ## Runs -/

/-- One use of a client: a call that sets up the store, or one of the engine. -/
inductive Use where
  | provision (p : Provision)
  | call (call : Direct)
deriving Repr

/-- A client with its server, and what became of the model in use. -/
structure Standing where
  client : Client
  server : Exchange
  /-- The store that the model was written to, or configured with. -/
  home : Option String
  /-- The stores created since. -/
  since : List String

namespace Standing

/-- A client as it was configured. -/
def configured (client : Client) (server : Exchange) : Standing :=
  ⟨client, server, client.storeId, []⟩

/-- What a use leaves. -/
def take (s : Standing) : Use → Standing
  | .call call => { s with server := call.after s.client.engine s.server }
  | .provision p =>
    let ((result, client), server) := p.run s.client s.server
    match p, result with
    | .createStore _, .ok (some id) => ⟨client, server, s.home, s.since ++ [id]⟩
    | .writeModel _, .ok _ => ⟨client, server, s.client.storeId, []⟩
    | _, _ => { s with client, server }

/-- What uses leave, one after the other. -/
def run (s : Standing) (uses : List Use) : Standing := uses.foldl take s

/-- The store that a client is to have: the last one created since the model, or else the model's.
-/
def store (s : Standing) : Option String := s.since.getLast?.or s.home

/-- Each use keeps the client and the store it stands for together. Creating a store changes both.
-/
theorem store_take {s : Standing} (kept : s.client.storeId = s.store) (use : Use) :
    (s.take use).client.storeId = (s.take use).store := by
  cases use with
  | call call => exact kept
  | provision p =>
    cases p with
    | createStore name =>
      simp only [take, Provision.run, Client.createStore]
      rcases s.client.post s.client.storesUrl (createStoreBody name) (textField? "id") s.server with
        ⟨e | id, server⟩
      · exact kept
      · simp [store, Except.map]
    | writeModel model =>
      simp only [take, Provision.run, Client.writeModel]
      rcases s.client.postToStore "authorization-models" model
        (textField? "authorization_model_id") s.server with ⟨e | id, server⟩
      · exact kept
      · simp [store, Except.map]
    | deleteStore => exact kept

/-- After any uses, the client still names the store it stands for. -/
theorem store_run {s : Standing} (kept : s.client.storeId = s.store) (uses : List Use) :
    (s.run uses).client.storeId = (s.run uses).store := by
  induction uses generalizing s with
  | nil => exact kept
  | cons use uses ih => exact ih (store_take kept use)

end Standing

/-- What the client says of its model reaches the server in calls of the engine alone: a call that
sets up the store sends the same without a model. -/
theorem Provision.run_unnamed (p : Provision) (c : Client) (modelId : Option String)
    (x : Exchange) : (p.run { c with modelId } x).2 = (p.run c x).2 := by
  cases p with
  | createStore name =>
    have same : ({ c with modelId } : Client).post ({ c with modelId } : Client).storesUrl
        (createStoreBody name) (textField? "id") x =
      c.post c.storesUrl (createStoreBody name) (textField? "id") x := rfl
    simp only [run, Client.createStore, same]
    rcases c.post c.storesUrl (createStoreBody name) (textField? "id") x with ⟨e | id, y⟩ <;> rfl
  | writeModel model =>
    have same : ({ c with modelId } : Client).postToStore "authorization-models" model
        (textField? "authorization_model_id") x =
      c.postToStore "authorization-models" model (textField? "authorization_model_id") x := rfl
    simp only [run, Client.writeModel, same]
    rcases c.postToStore "authorization-models" model (textField? "authorization_model_id") x with
      ⟨e | id, y⟩ <;> rfl
  | deleteStore => rfl

/-- Over any run of a client, whatever the server answers: a call that sets up the store names no
model on its own; and a request of a call of the engine that names a model names the client's, and
goes to the store created last since that model was written or configured, or else to the store that
the model was written to or configured with. So it goes to the store of its model as long as no
other store was created since. -/
theorem run_sends_model_to_last_store (client : Client) (server : Exchange) (uses : List Use)
    (call : Direct) :
    let s := (Standing.configured client server).run uses
    let sent := (call.after s.client.engine s.server).received.drop s.server.received.length
    (∀ (p : Provision) modelId,
      (p.run { s.client with modelId } s.server).2 = (p.run s.client s.server).2) ∧
    (∀ request ∈ sent, ∀ model, request.modelId? = some model →
      s.client.modelId = some model ∧
      ∃ store, s.since.getLast?.or s.home = some store ∧ s.client.AddressedTo store request) ∧
    ((∀ store ∈ s.since, s.home = some store) →
      ∀ request ∈ sent, ∀ model, request.modelId? = some model →
        ∃ home, s.home = some home ∧ s.client.AddressedTo home request) := by
  intro s sent
  have standing : s.client.storeId = s.store := Standing.store_run rfl uses
  obtain ⟨requests, took, issued⟩ := Client.issues_call s.client s.server call
  have all : sent = requests := by
    simp only [sent, took.received, List.drop_left]
  have placed : ∀ request ∈ sent, ∀ model, request.modelId? = some model →
      s.client.modelId = some model ∧
      ∃ store, s.since.getLast?.or s.home = some store ∧ s.client.AddressedTo store request := by
    intro request mem model named
    obtain ⟨⟨store, stored, addressed⟩, unnamed | same⟩ := issued request (all ▸ mem)
    · rw [named] at unnamed
      cases unnamed
    · exact ⟨same.symm.trans named, store, standing.symm.trans stored, addressed⟩
  refine ⟨fun p modelId => p.run_unnamed s.client modelId s.server, placed, ?_⟩
  intro same request mem model named
  obtain ⟨-, store, last, addressed⟩ := placed request mem model named
  refine ⟨store, ?_, addressed⟩
  cases created : s.since.getLast? with
  | none =>
    rw [created] at last
    exact last
  | some latest =>
    rw [created] at last
    cases last
    exact same store (List.mem_of_getLast? created)

/-- A client of the store `s` with the model `m` creates the store `s2`: its next check goes to `s2`
and names `m`, which that store does not know. -/
theorem check_names_model_of_other_store :
    let client : Client := { localClient with modelId := some "m" }
    let server : Exchange :=
      { script := [.reply 201 "\x7b\"id\":\"s2\"\x7d", .reply 200 "\x7b\"allowed\":true\x7d"] }
    let s := (Standing.configured client server).run [.provision (.createStore "fresh")]
    let sent := ((Direct.check (readerCheck "user:alice")).after s.client.engine
      s.server).received.drop s.server.received.length
    ¬ ∀ request ∈ sent, ∀ model, request.modelId? = some model →
      ∃ home, s.home = some home ∧ s.client.AddressedTo home request := by
  intro client server s sent claimed
  have one : sent.map (fun request => (request.path, request.modelId?)) =
      [("/stores/s2/check", some "m")] := by decide +kernel
  have written : s.home = some "s" := by decide +kernel
  have elsewhere : ∀ operation ∈ Client.operations,
      ({ s.client with storeId := some "s" } : Client).target? operation ≠
        some "/stores/s2/check" := by decide +kernel
  obtain ⟨request, alone, shown⟩ := List.map_eq_singleton_iff.mp one
  obtain ⟨path, named⟩ := Prod.mk.inj shown
  obtain ⟨home, homed, operation, known, addressed⟩ := claimed request (by simp [alone]) "m" named
  rw [written] at homed
  cases homed
  rw [path] at addressed
  exact elsewhere operation known addressed

end Http

end Rebac
