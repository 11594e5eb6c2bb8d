import Rebac.Proofs.Http.Provisioning
import Rebac.Proofs.Text.Blank

/-!
# The base of a client's addresses

Every request of a client goes to an address that begins with one text, the base: the address in its
connection without the slashes at the end. The settings are checked by that address without the
blanks around it, so a blank at an end gets past the check and into the base, and an address that is
a scheme alone loses the slashes that belong to the scheme. The main statement says that nothing
else goes wrong, and that all requests of a client are built on its base.
-/

namespace Rebac

namespace Settings

/-- What the address of an interface begins with. -/
def schemes : List String := ["http://", "https://"]

theorem scheme_of_urlFault? {url : String} (accepted : urlFault? url = none) :
    ∃ scheme ∈ schemes, Text.beginsWith (Text.trimBlanks url) scheme = true := by
  simp only [urlFault?] at accepted
  split at accepted
  · cases accepted
  · split at accepted
    next begins => simpa [schemes] using begins
    next => cases accepted

/-- The address of settings without a fault is without a fault. -/
theorem urlFault?_of_fault? {s : Settings} (accepted : s.fault? = none) :
    urlFault? s.engine.apiUrl = none :=
  (Option.or_eq_none_iff.mp accepted).1

/-- Behind no blanks, an address that is accepted begins with a scheme as it is written. -/
theorem beginsWith_of_accepted {url : String} (accepted : urlFault? url = none)
    (opened : ∀ c ∈ url.toList.head?, Text.isBlank c = false) :
    ∃ scheme ∈ schemes, Text.beginsWith url scheme = true := by
  obtain ⟨scheme, known, begins⟩ := scheme_of_urlFault? accepted
  refine ⟨scheme, known, ?_⟩
  obtain ⟨blanks, whole, -⟩ := Text.eq_dropEndWhile_append Text.isBlank url
  rw [Text.trimBlanks, Text.trimWhile_eq_dropEndWhile opened] at begins
  have chars := congrArg String.toList whole
  rw [String.toList_append] at chars
  rw [Text.beginsWith, chars]
  exact List.isPrefixOf_iff_prefix.mpr
    ((List.isPrefixOf_iff_prefix.mp begins).trans (List.prefix_append _ _))

end Settings

namespace Http

open Access (Direct)
open Settings (schemes)

/-! ## The base -/

/-- A text to build addresses on: it begins with a scheme of the web, and ends neither in a blank
nor in a slash. -/
structure IsBase (url : String) : Prop where
  scheme : ∃ scheme ∈ schemes, Text.beginsWith url scheme = true
  unblank : ∀ c ∈ url.toList.getLast?, Text.isBlank c = false
  unslashed : ∀ c ∈ url.toList.getLast?, c ≠ '/'

theorem apiUrl_unslashed (url : String) :
    ∀ c ∈ (Client.ofUrl url).apiUrl.toList.getLast?, c ≠ '/' := by
  intro c last
  simpa using Text.getLast?_dropEndWhile c last

/-- A text that begins with a scheme opens with a letter. -/
theorem head?_of_scheme {url scheme : String} (known : scheme ∈ schemes)
    (begins : Text.beginsWith url scheme = true) : url.toList.head? = some 'h' := by
  obtain ⟨rest, chars⟩ := List.isPrefixOf_iff_prefix.mp begins
  rw [← chars]
  simp only [schemes, List.mem_cons, List.not_mem_nil, or_false] at known
  rcases known with rfl | rfl <;> rfl

/-- The first character of a base is that of the address, unless the address is slashes alone. -/
theorem head?_unblank_of_apiUrl {url : String}
    (opened : ∀ c ∈ (Client.ofUrl url).apiUrl.toList.head?, Text.isBlank c = false) :
    ∀ c ∈ url.toList.head?, Text.isBlank c = false := by
  intro c first
  obtain ⟨slashes, whole, each⟩ := Text.eq_dropEndWhile_append (· = '/') url
  have chars := congrArg String.toList whole
  rw [String.toList_append] at chars
  rw [chars, List.head?_append, Option.mem_def, Option.or_eq_some_iff] at first
  rcases first with base | ⟨-, slash⟩
  · exact opened c base
  · obtain rfl : c = '/' := by simpa using each c (List.mem_of_head? slash)
    decide

/-- What is left of an address that is accepted is a base, unless blanks stand at an end of it or
nothing but a scheme is left. -/
theorem isBase_iff {url : String} (accepted : Settings.urlFault? url = none) :
    IsBase (Client.ofUrl url).apiUrl ↔
      Text.trimBlanks (Client.ofUrl url).apiUrl = (Client.ofUrl url).apiUrl ∧
        (Client.ofUrl url).apiUrl ∉ ["http:", "https:"] := by
  rw [Text.trimBlanks, Text.trimWhile_eq_self_iff]
  constructor
  · rintro ⟨⟨scheme, known, begins⟩, unblank, -⟩
    refine ⟨⟨?_, unblank⟩, ?_⟩
    · intro c first
      rw [head?_of_scheme known begins] at first
      cases first
      decide
    · intro bare
      simp only [schemes, List.mem_cons, List.not_mem_nil, or_false] at known bare
      rcases known with rfl | rfl <;> rcases bare with short | short <;> rw [short] at begins <;>
        revert begins <;> decide
  · rintro ⟨⟨opened, unblank⟩, more⟩
    refine ⟨?_, unblank, apiUrl_unslashed url⟩
    obtain ⟨scheme, known, begins⟩ :=
      Settings.beginsWith_of_accepted accepted (head?_unblank_of_apiUrl opened)
    rcases Text.beginsWith_dropEndWhile begins with kept | short
    · exact ⟨scheme, known, kept⟩
    · refine absurd ?_ more
      rw [show (Client.ofUrl url).apiUrl = Text.dropEndWhile (· = '/') scheme from short]
      simp only [schemes, List.mem_cons, List.not_mem_nil, or_false] at known
      rcases known with rfl | rfl <;> decide

/-! ## What is built on it -/

/-- Sends requests, one after the other. -/
def Exchange.sendAll (x : Exchange) (requests : List Request) : Exchange :=
  requests.foldl (fun x request => (x.send request).2) x

/-- Requests to one path below the stores of an interface, all with one token, take the server from
a state to another. Without a path there are none. -/
def Exchange.Asked (x : Exchange) (base : String) (token path? : Option String)
    (y : Exchange) : Prop :=
  ∃ requests, y = x.sendAll requests ∧ ∀ request ∈ requests, request.token = token ∧
    ∃ path, path? = some path ∧ request.url = base ++ "/stores" ++ path

theorem Exchange.Asked.refl (x : Exchange) (base : String) (token path? : Option String) :
    x.Asked base token path? x :=
  ⟨[], rfl, by simp⟩

theorem Exchange.Asked.trans {x y z : Exchange} {base : String} {token path? : Option String}
    (first : x.Asked base token path? y) (later : y.Asked base token path? z) :
    x.Asked base token path? z := by
  obtain ⟨requests, rfl, each⟩ := first
  obtain ⟨requests', rfl, each'⟩ := later
  refine ⟨requests ++ requests', List.foldl_append.symm, ?_⟩
  intro request mem
  rcases List.mem_append.mp mem with early | late
  · exact each request early
  · exact each' request late

namespace Client

variable (c : Client) (x : Exchange)

theorem asked_send (method : Method) (path : String) (body : Option Json) :
    x.Asked c.apiUrl c.token (some path) (c.send method (c.storesUrl ++ path) body x).2 := by
  refine ⟨[⟨method, c.storesUrl ++ path, c.token, body⟩], ?_, ?_⟩
  · simp only [send, Exchange.sendAll, List.foldl_cons, List.foldl_nil]
    rcases x.send ⟨method, c.storesUrl ++ path, c.token, body⟩ with ⟨fault | ⟨status, body⟩, y⟩
    · rfl
    · simp only
      split <;> rfl
  · simp [storesUrl]

theorem post_state {α : Type} (url : String) (body : Json) (read : String → Option α) :
    (c.post url body read x).2 = (c.send .post url (some body) x).2 := by
  simp only [post]
  rcases c.send .post url (some body) x with ⟨e | text, y⟩
  · rfl
  · simp only
    split <;> rfl

theorem asked_postToStore {α : Type} (operation : String) (body : Json)
    (read : String → Option α) :
    x.Asked c.apiUrl c.token (c.storeId.map fun id => "/" ++ id ++ "/" ++ operation)
      (c.postToStore operation body read x).2 := by
  cases stored : c.storeId with
  | none =>
    simp only [postToStore, storeUrl, stored]
    exact .refl x _ _ _
  | some id =>
    simp only [postToStore, storeUrl, stored, post_state, Option.map_some]
    have sent := c.asked_send x .post ("/" ++ id ++ "/" ++ operation) (some body)
    simpa only [String.append_assoc] using sent

theorem Posts.asked {c : Client} {operation : String} {x y : Exchange}
    (posts : c.Posts operation x y) :
    x.Asked c.apiUrl c.token (c.storeId.map fun id => "/" ++ id ++ "/" ++ operation) y := by
  induction posts with
  | refl x => exact .refl x _ _ _
  | post named read _ ih => exact (c.asked_postToStore _ operation _ read).trans ih

end Client

/-- The path below the stores that a use of a client asks for. Only a new store is asked for without
having one. -/
def Use.path? (storeId : Option String) : Use → Option String
  | .provision (.createStore _) => some ""
  | .provision (.writeModel _) => storeId.map fun id => "/" ++ id ++ "/" ++ "authorization-models"
  | .provision .deleteStore => storeId.map fun id => "/" ++ id
  | .call direct => storeId.map fun id => "/" ++ id ++ "/" ++ direct.operation

theorem Provision.asked (p : Provision) (c : Client) (x : Exchange) :
    x.Asked c.apiUrl c.token ((Use.provision p).path? c.storeId) (p.run c x).2 := by
  cases p with
  | createStore name =>
    have sent := c.asked_send x .post "" (some (createStoreBody name))
    rw [String.append_empty, ← c.post_state x c.storesUrl _ (textField? "id")] at sent
    simp only [run, Client.createStore]
    rcases posted : c.post c.storesUrl (createStoreBody name) (textField? "id") x with
      ⟨e | id, y⟩ <;> rw [posted] at sent <;> exact sent
  | writeModel model =>
    have sent := c.asked_postToStore x "authorization-models" model
      (textField? "authorization_model_id")
    simp only [run, Client.writeModel]
    rcases posted : c.postToStore "authorization-models" model
      (textField? "authorization_model_id") x with
      ⟨e | id, y⟩ <;> rw [posted] at sent <;> exact sent
  | deleteStore =>
    simp only [run, Client.deleteStore, Use.path?]
    cases stored : c.storeId with
    | none => exact .refl x _ _ _
    | some id =>
      have sent := c.asked_send x .delete ("/" ++ id) none
      rw [← String.append_assoc] at sent
      exact sent

/-- A call that sets up the store changes the store or the model of the client, and no more. -/
theorem Provision.run_client (p : Provision) (c : Client) (x : Exchange) :
    (p.run c x).1.2.apiUrl = c.apiUrl ∧ (p.run c x).1.2.token = c.token := by
  cases p with
  | createStore name =>
    simp only [run, Client.createStore]
    rcases c.post c.storesUrl (createStoreBody name) (textField? "id") x with ⟨e | id, y⟩ <;>
      exact ⟨rfl, rfl⟩
  | writeModel model =>
    simp only [run, Client.writeModel]
    rcases c.postToStore "authorization-models" model (textField? "authorization_model_id") x with
      ⟨e | id, y⟩ <;> exact ⟨rfl, rfl⟩
  | deleteStore => exact ⟨rfl, rfl⟩

namespace Standing

theorem take_provision (s : Standing) (p : Provision) :
    (s.take (.provision p)).client = (p.run s.client s.server).1.2 ∧
      (s.take (.provision p)).server = (p.run s.client s.server).2 := by
  simp only [take]
  rcases p.run s.client s.server with ⟨⟨result, client⟩, server⟩
  cases p <;> rcases result with e | _ | id <;> exact ⟨rfl, rfl⟩

theorem asked_take (s : Standing) (use : Use) :
    s.server.Asked s.client.apiUrl s.client.token (use.path? s.client.storeId)
      (s.take use).server := by
  cases use with
  | provision p =>
    rw [(s.take_provision p).2]
    exact p.asked s.client s.server
  | call direct => exact (s.client.posts_call s.server direct).asked

theorem client_take (s : Standing) (use : Use) :
    (s.take use).client.apiUrl = s.client.apiUrl ∧
      (s.take use).client.token = s.client.token := by
  cases use with
  | provision p =>
    rw [(s.take_provision p).1]
    exact p.run_client s.client s.server
  | call direct => exact ⟨rfl, rfl⟩

/-- The base and the token stay the same over a run. -/
theorem client_run (s : Standing) (uses : List Use) :
    (s.run uses).client.apiUrl = s.client.apiUrl ∧
      (s.run uses).client.token = s.client.token := by
  induction uses generalizing s with
  | nil => exact ⟨rfl, rfl⟩
  | cons use uses ih =>
    obtain ⟨base, token⟩ := s.client_take use
    obtain ⟨base', token'⟩ := ih (s.take use)
    exact ⟨base'.trans base, token'.trans token⟩

end Standing

/-- Settings for a store, given the address of the interface. -/
def settingsAt (apiUrl : String) : Settings := { engine := { apiUrl, storeId := some "s" } }

/-- The client of settings without a fault has their store, model and token, and for its base their
address up to the slashes at the end. The base never ends in a slash. It begins with a scheme of the
web and ends in no blank exactly when no blanks stand around it and it is more than a scheme.
Whatever the client did before and whatever the server answers, each use of the client sends
requests with the token of the settings to the base, `/stores` and the path of the use. -/
theorem requests_on_base (settings : Settings) (accepted : settings.fault? = none)
    (server : Exchange) (uses : List Use) (use : Use) :
    let client := Client.ofConnection settings.engine
    let s := (Standing.configured client server).run uses
    (client.storeId = settings.engine.storeId ∧ client.modelId = settings.engine.modelId ∧
      client.token = settings.engine.apiToken) ∧
    (∃ slashes, settings.engine.apiUrl = client.apiUrl ++ slashes ∧
      ∀ c ∈ slashes.toList, c = '/') ∧
    (∀ c ∈ client.apiUrl.toList.getLast?, c ≠ '/') ∧
    (IsBase client.apiUrl ↔
      Text.trimBlanks client.apiUrl = client.apiUrl ∧ client.apiUrl ∉ ["http:", "https:"]) ∧
    ∃ requests, (s.take use).server = s.server.sendAll requests ∧
      ∀ request ∈ requests, request.token = settings.engine.apiToken ∧
        ∃ path, use.path? s.client.storeId = some path ∧
          request.url = client.apiUrl ++ "/stores" ++ path := by
  intro client s
  obtain ⟨base, token⟩ := (Standing.configured client server).client_run uses
  have asked := s.asked_take use
  rw [base, token] at asked
  obtain ⟨slashes, whole, each⟩ := Text.eq_dropEndWhile_append (· = '/') settings.engine.apiUrl
  exact ⟨⟨rfl, rfl, rfl⟩, ⟨slashes, whole, by simpa using each⟩,
    apiUrl_unslashed settings.engine.apiUrl,
    isBase_iff (Settings.urlFault?_of_fault? accepted), asked⟩

/-- A client with two slashes at the end of its address. -/
abbrev slashedClient : Client := .ofConnection (settingsAt "http://[::1]//").engine

/-- A server with a new store, and an answer to a check. -/
def renewing : Exchange :=
  { script := [.reply 201 "\x7b\"id\":\"s2\"\x7d", .reply 200 "\x7b\"allowed\":true\x7d"] }

/-- The client after it created the store. -/
abbrev renewed : Standing :=
  (Standing.configured slashedClient renewing).run [.provision (.createStore "fresh")]

/-- An address with two slashes at its end gives the base without them. The client creates the store
`s2`, and its check is then sent to that store. -/
theorem requests_on_base_of_slashes :
    (settingsAt "http://[::1]//").fault? = none ∧
      slashedClient.apiUrl = "http://[::1]" ∧ IsBase slashedClient.apiUrl ∧
      ∃ requests, requests ≠ [] ∧
        (renewed.take (.call (.check (readerCheck "user:alice")))).server =
          renewed.server.sendAll requests ∧
        ∀ request ∈ requests, request.url = "http://[::1]/stores/s2/check" := by
  have accepted : (settingsAt "http://[::1]//").fault? = none := by decide +kernel
  have base : slashedClient.apiUrl = "http://[::1]" := by decide +kernel
  have stored : renewed.client.storeId = some "s2" := by decide +kernel
  have before : renewed.server.received.length = 1 := by decide +kernel
  have behind : (renewed.take (.call (.check (readerCheck "user:alice")))).server.received.length =
      2 := by decide +kernel
  obtain ⟨-, -, -, usable, requests, sent, each⟩ := requests_on_base (settingsAt "http://[::1]//")
    accepted renewing [.provision (.createStore "fresh")]
    (.call (.check (readerCheck "user:alice")))
  refine ⟨accepted, base, usable.mpr (by decide +kernel), requests, ?_, sent, ?_⟩
  · rintro rfl
    rw [sent, Exchange.sendAll, List.foldl_nil, before] at behind
    cases behind
  · intro request mem
    obtain ⟨-, path, asked, url⟩ := each request mem
    rw [stored] at asked
    cases asked
    rw [url, base]
    rfl

/-- Settings whose address has a blank behind it, or is a scheme alone, are accepted, and what their
client builds on ends in the blank, or is no longer the scheme. -/
theorem accepted_without_base :
    ((settingsAt "http://[::1] ").fault? = none ∧
      ¬ IsBase (Client.ofConnection (settingsAt "http://[::1] ").engine).apiUrl) ∧
    ((settingsAt "http://").fault? = none ∧
      ¬ IsBase (Client.ofConnection (settingsAt "http://").engine).apiUrl) := by
  have blank : (settingsAt "http://[::1] ").fault? = none := by decide +kernel
  have bare : (settingsAt "http://").fault? = none := by decide +kernel
  have unusable (url : String) (accepted : (settingsAt url).fault? = none) :=
    (isBase_iff (Settings.urlFault?_of_fault? accepted)).not
  exact ⟨⟨blank, (unusable _ blank).mpr (by decide +kernel)⟩,
    bare, (unusable _ bare).mpr (by decide +kernel)⟩

end Http

end Rebac
