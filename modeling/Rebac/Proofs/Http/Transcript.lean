import Rebac.Http.Client

/-!
# Transcripts

What the server sees of a call: the requests that reach it, each with the answer it gets. A POST to
the store either fails before it reaches the server, or is one round.
-/

namespace Rebac.Http

/-- A request that reached the server, and its answer. -/
structure Round where
  request : Received
  response : Response

namespace Exchange

/-- Requests with the answers that the script has for them. -/
def answers (x : Exchange) (requests : List Received) : List Round :=
  requests.mapIdx fun k request => ⟨request, x.script[k]?.getD exhausted⟩

/-- The rounds between a state of the server and a later one. -/
def rounds (x x' : Exchange) : List Round := x.answers (x'.received.drop x.received.length)

/-- Requests take the server from one state to another. -/
structure Took (x : Exchange) (requests : List Received) (x' : Exchange) : Prop where
  received : x'.received = x.received ++ requests
  script : x'.script = x.script.drop requests.length
  reachable : x'.reachable = x.reachable

theorem Took.refl (x : Exchange) : x.Took [] x := ⟨by simp, rfl, rfl⟩

theorem Took.trans {x y z : Exchange} {first later : List Received} (h : x.Took first y)
    (h' : y.Took later z) : x.Took (first ++ later) z where
  received := by rw [h'.received, h.received, List.append_assoc]
  script := by rw [h'.script, h.script, List.drop_drop, List.length_append]
  reachable := h'.reachable.trans h.reachable

/-- The rounds of a call are its requests with the answers that the script has next. -/
theorem Took.rounds_eq {x x' : Exchange} {requests : List Received} (h : x.Took requests x') :
    x.rounds x' = x.answers requests := by
  rw [rounds, h.received, List.drop_left]

/-- Later requests are answered from the rest of the script. -/
theorem Took.answers_append {x x' : Exchange} {first : List Received} (h : x.Took first x')
    (later : List Received) : x.answers (first ++ later) = x.answers first ++ x'.answers later := by
  simp only [answers, List.mapIdx_append, h.script, List.getElem?_drop, Nat.add_comm]

theorem answers_singleton (x : Exchange) (request : Received) :
    x.answers [request] = [⟨request, x.script.headD exhausted⟩] := by
  cases script : x.script <;> simp [answers, script]

end Exchange

/-- What a response gives a reader: something only with success, and with a body it can read. -/
def Response.read? {α : Type} (read : String → Option α) : Response → Option α
  | .reply status body => if isSuccess status then read body else none
  | .dropped => none

/-- Only a reply is read, of a status that says success, and with a body that can be read. -/
theorem Response.read?_eq_some {α : Type} {read : String → Option α} {response : Response} {a : α} :
    response.read? read = some a ↔
      ∃ status body, response = .reply status body ∧ isSuccess status = true ∧
        read body = some a := by
  cases response with
  | dropped => simp [Response.read?]
  | reply status body =>
    constructor
    · intro h
      simp only [Response.read?] at h
      split at h
      · next success => exact ⟨status, body, rfl, success, h⟩
      · cases h
    · rintro ⟨_, _, same, success, h⟩
      cases same
      simp only [Response.read?, success, if_true, h]

/-- What a response makes of a POST to an address: the value that it gives a reader, or else the
failure that its status, its body or its absence means. -/
def Response.outcome {α : Type} (read : String → Option α) (address : String) :
    Response → Except Engine.Error α
  | .reply status body =>
    if isSuccess status then ((read body).map .ok).getD (.error (.decode .body))
    else .error (Client.statusError status body)
  | .dropped => .error (.transport (.unsent address))

/-- A call succeeds exactly where its answer is read. The address is for the messages. -/
theorem Response.outcome_eq_ok {α : Type} {read : String → Option α} {address : String}
    {response : Response} {a : α} :
    response.outcome read address = .ok a ↔ response.read? read = some a := by
  cases response with
  | dropped => simp [Response.outcome, Response.read?]
  | reply status body =>
    simp only [Response.outcome, Response.read?]
    split
    · cases read body <;> simp
    · simp

namespace Client

/-- The address of an operation on the store, when a POST to it can be made. -/
def address? (c : Client) (operation : String) : Option Url :=
  (c.storeUrl operation).toOption.bind fun url =>
    (Request.address ⟨.post, url, c.token, none⟩).toOption

/-- Where a POST to an operation on the store goes, when it can be made. -/
def target? (c : Client) (operation : String) : Option String :=
  (c.address? operation).map (·.target)

/-- A POST as the server receives it. -/
def posted (c : Client) (target : String) (body : Json) : Received :=
  ⟨.post, target, c.token.map bearer, some body⟩

variable {α : Type} {c : Client} {operation : String} {x : Exchange} (body : Json)
  (read : String → Option α)

/-- What becomes of a POST once its address is known. -/
theorem post_eq (url : String) :
    c.post url body read x =
      match Request.address ⟨.post, url, c.token, none⟩ with
      | .error fault => (.error (.transport fault), x)
      | .ok address =>
        if x.reachable then
          ((x.script.headD exhausted).outcome read address.text,
            { x with
              script := x.script.tail
              received := x.received ++ [c.posted address.target body] })
        else (.error (.transport (.unsent address.text)), x) := by
  have same : Request.address ⟨.post, url, c.token, some body⟩ =
      Request.address ⟨.post, url, c.token, none⟩ := rfl
  simp only [post, send, Exchange.send, same]
  cases Request.address ⟨.post, url, c.token, none⟩ with
  | error fault => rfl
  | ok address =>
    cases x.reachable with
    | false => rfl
    | true =>
      cases x.script.headD exhausted with
      | dropped => rfl
      | reply status text =>
        cases success : isSuccess status with
        | false => simp [Response.outcome, success, posted]
        | true => cases found : read text <;> simp [Response.outcome, success, posted, found]

/-- A request is not sent if there is no address for it or the server is not there. Otherwise it is
sent. -/
theorem unsent_or_sent (c : Client) (operation : String) (x : Exchange) :
    (c.target? operation = none ∨ x.reachable = false) ∨
      ∃ target, c.target? operation = some target ∧ x.reachable = true := by
  cases c.target? operation with
  | none => exact .inl (.inl rfl)
  | some target =>
    cases x.reachable with
    | false => exact .inl (.inr rfl)
    | true => exact .inr ⟨target, rfl, rfl⟩

/-- A POST that cannot be made fails, and the server does not see it. -/
theorem postToStore_unsent (h : c.target? operation = none ∨ x.reachable = false) :
    ∃ e, c.postToStore operation body read x = (.error e, x) := by
  unfold postToStore
  cases store : c.storeUrl operation with
  | error e => exact ⟨e, rfl⟩
  | ok url =>
    simp only [post_eq]
    cases address : Request.address ⟨.post, url, c.token, none⟩ with
    | error fault => exact ⟨.transport fault, rfl⟩
    | ok address' =>
      have unreachable : x.reachable = false := by
        refine h.resolve_left fun nowhere => ?_
        simp [target?, address?, store, address, Except.toOption] at nowhere
      simp only [unreachable]
      exact ⟨_, rfl⟩

/-- A POST that can be made is one round, and comes to what the response makes of it. -/
theorem postToStore_answered {url : Url} (h : c.address? operation = some url)
    (reachable : x.reachable = true) :
    let out := c.postToStore operation body read x
    x.Took [c.posted url.target body] out.2 ∧
      out.1 = (x.script.headD exhausted).outcome read url.text := by
  unfold address? at h
  unfold postToStore
  cases store : c.storeUrl operation with
  | error e =>
    rw [store] at h
    cases h
  | ok address =>
    cases buildable : Request.address ⟨.post, address, c.token, none⟩ with
    | error fault =>
      simp only [store, Except.toOption, Option.bind_some, buildable] at h
      cases h
    | ok url' =>
      simp only [store, Except.toOption, Option.bind_some, buildable] at h
      cases h
      simp only [post_eq, buildable, reachable, if_true]
      exact ⟨⟨rfl, List.drop_one.symm, reachable.symm⟩, trivial⟩

/-- A POST that can be made is one round, and succeeds with what the response gives. -/
theorem postToStore_sent {target : String} (h : c.target? operation = some target)
    (reachable : x.reachable = true) :
    let out := c.postToStore operation body read x
    x.Took [c.posted target body] out.2 ∧
      ∀ a, out.1 = .ok a ↔ (x.script.headD exhausted).read? read = some a := by
  obtain ⟨url, address, rfl⟩ := Option.map_eq_some_iff.mp h
  obtain ⟨took, answer⟩ := postToStore_answered body read address reachable
  exact ⟨took, fun a => by rw [answer, Response.outcome_eq_ok]⟩

end Client

/-! ## A server on this machine -/

/-- A client of a store on this machine. -/
def localClient : Client := { apiUrl := "http://[::1]", storeId := some "s" }

/-- A check on a document. -/
def readerCheck (user : String) : CheckItem := ⟨"document:1", "reader", user, none⟩

/-- A server with one answer. -/
def answering (body : String) : Exchange := { script := [.reply 200 body] }

end Rebac.Http
