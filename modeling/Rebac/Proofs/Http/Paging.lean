import Rebac.Proofs.Access.Inspection
import Rebac.Proofs.Http.Page

/-!
# Reads page by page

A read follows the pages of its answer by their tokens, one request a page, up to the last page or
the first response that serves none. Queries for all objects and all accessors are such reads.
-/

namespace Rebac.Http

open Access (FirstSeen listAllObjects listAllAccessors)
open Engine (ReadFilter)
open Naming (Entity)

/-- No page follows: there is no token for one, or an empty one. -/
def Page.IsLast (page : Page) : Prop := page.continuation = none ∨ page.continuation = some ""

/-- The body of a request for a page: what is read, how many tuples a page may hold, and the token
of the page before it. -/
structure IsReadBody (filter : ReadFilter) (token : Option String) (body : Json) : Prop where
  key : ∃ key, body.get? "tuple_key" = some key ∧ key.get? "user" = filter.user.map .str ∧
    key.get? "object" = filter.object.map .str
  size : body.get? "page_size" = some (.int 100)
  token : body.get? "continuation_token" = token.map .str

theorem isReadBody_readBody (filter : ReadFilter) (token : Option String) :
    IsReadBody filter token (readBody filter token) where
  key := by
    refine ⟨_, rfl, ?_⟩
    cases filter.user <;> cases filter.object <;> simp [optionalMember, Json.get?, Keyed.find?]
  size := rfl
  token := by cases token <;> simp [readBody, optionalMember, Json.get?, Keyed.find?]

/-- What the response that ends a read means for it: its tuples where it is the last page, and its
failure where it serves no page. -/
inductive Ends (address : String) (response : Response) : Except Engine.Error (List Tuple) → Prop
    where
  | last {page : Page} (serves : response.Serves page) (last : page.IsLast) :
    Ends address response (.ok page.tuples)
  | failed {e : Engine.Error} (outcome : response.outcome page? address = .error e) :
    Ends address response (.error e)

/-- A response that serves no page is a failure. -/
theorem Response.outcome_of_serves_nothing {response : Response}
    (nothing : ∀ page, ¬ response.Serves page) (address : String) :
    ∃ e, response.outcome page? address = .error e := by
  cases outcome : response.outcome page? address with
  | error e => exact ⟨e, rfl⟩
  | ok page =>
    exact absurd (Response.read?_page_iff.mp (Response.outcome_eq_ok.mp outcome)) (nothing page)

theorem Response.outcome_of_serves {response : Response} {page : Page}
    (serves : response.Serves page) (address : String) :
    response.outcome page? address = .ok page :=
  Response.outcome_eq_ok.mpr (Response.read?_page_iff.mpr serves)

namespace Client

variable {c : Client} {url : Url} (filter : ReadFilter) {x : Exchange}

/-- The request for the page of a token. -/
def pageRequest (c : Client) (target : String) (filter : ReadFilter) (token : Option String) :
    Received :=
  c.posted target (readBody filter token)

/-- The response that ends a read is the last that it takes. -/
theorem readPages_end (address : c.address? "read" = some url) (reachable : x.reachable = true)
    {result : Except Engine.Error (List Tuple)}
    (ends : Ends url.text (x.script.headD exhausted) result) (fuel : Nat)
    (token : Option String) :
    let out := c.readPages filter (fuel + 1) token x
    x.Took [c.pageRequest url.target filter token] out.2 ∧ out.1 = result := by
  obtain ⟨took, answer⟩ :=
    postToStore_answered (readBody filter token) page? address reachable
  simp only [readPages]
  generalize c.postToStore "read" (readBody filter token) page? x = out at took answer
  obtain ⟨served, x'⟩ := out
  simp only at took answer
  cases ends with
  | @last page serves last =>
    rw [Response.outcome_of_serves serves] at answer
    subst answer
    obtain none | empty := last
    · simp only [none]
      exact ⟨took, trivial⟩
    · simp only [empty]
      exact ⟨took, trivial⟩
  | failed outcome =>
    rw [outcome] at answer
    subst answer
    exact ⟨took, rfl⟩

/-- A page with a continuation is followed by the page of its token. -/
theorem readPages_turn (address : c.address? "read" = some url) (reachable : x.reachable = true)
    {page : Page} (serves : (x.script.headD exhausted).Serves page) (more : ¬ page.IsLast)
    (fuel : Nat) (token : Option String) :
    ∃ x', x.Took [c.pageRequest url.target filter token] x' ∧
      c.readPages filter (fuel + 1) token x =
        ((c.readPages filter fuel page.continuation x').1.map (page.tuples ++ ·),
          (c.readPages filter fuel page.continuation x').2) := by
  obtain ⟨took, answer⟩ :=
    postToStore_answered (readBody filter token) page? address reachable
  simp only [readPages]
  generalize c.postToStore "read" (readBody filter token) page? x = out at took answer
  obtain ⟨served, x'⟩ := out
  simp only at took answer
  rw [Response.outcome_of_serves serves] at answer
  subst answer
  refine ⟨x', took, ?_⟩
  cases next : page.continuation with
  | none => exact absurd (.inl next) more
  | some next' =>
    have some : next' ≠ "" := fun empty => more (.inr (empty ▸ next))
    simp only [next]

/-- A read takes one request for each page, the first without a token and each other with the token
of the page before it. Its result is the tuples of the pages before the last response, in order, and
with them what the last response means. -/
theorem readPages_followed (address : c.address? "read" = some url) {turned : List Page}
    (more : ∀ page ∈ turned, ¬ page.IsLast) {result : Except Engine.Error (List Tuple)}
    {x : Exchange} (reachable : x.reachable = true)
    (served : List.Forall₂ Response.Serves (x.script.take turned.length) turned)
    (ends : Ends url.text ((x.script.drop turned.length).headD exhausted) result) {fuel : Nat}
    (enough : turned.length < fuel) (token : Option String) :
    let out := c.readPages filter fuel token x
    x.Took ((token :: turned.map (·.continuation)).map (c.pageRequest url.target filter)) out.2 ∧
      out.1 = result.map (turned.flatMap (·.tuples) ++ ·) := by
  induction turned generalizing x fuel token with
  | nil =>
    obtain ⟨fuel, rfl⟩ := Nat.exists_eq_add_one_of_ne_zero (Nat.ne_of_gt enough)
    obtain ⟨took, answer⟩ := readPages_end filter address reachable ends fuel token
    refine ⟨took, answer.trans ?_⟩
    cases result <;> rfl
  | cons page turned ih =>
    obtain ⟨fuel, rfl⟩ := Nat.exists_eq_add_one_of_ne_zero (Nat.ne_of_gt (Nat.zero_lt_of_lt enough))
    obtain ⟨first, more⟩ := List.forall_mem_cons.mp more
    cases script : x.script with
    | nil =>
      rw [script] at served
      cases served
    | cons response rest =>
      rw [script, List.length_cons, List.take_succ_cons] at served
      obtain ⟨here, later⟩ := List.forall₂_cons.mp served
      rw [script, List.length_cons, List.drop_succ_cons] at ends
      have serves : (x.script.headD exhausted).Serves page := by
        rw [script]
        exact here
      obtain ⟨x', took, run⟩ := readPages_turn filter address reachable serves first fuel token
      have after : x'.script = rest := by
        rw [took.script, script]
        rfl
      obtain ⟨later, answer⟩ := ih more (took.reachable.trans reachable) (after ▸ later)
        (after ▸ ends) (Nat.lt_of_succ_lt_succ enough) page.continuation
      rw [run]
      refine ⟨took.trans later, ?_⟩
      rw [answer]
      cases result <;> simp [Except.map]

/-- One request was taken for each page: the first without a token, and each other with the token of
the page before it. -/
def Asked (c : Client) (target : String) (filter : ReadFilter) (turned : List Page)
    (x x' : Exchange) : Prop :=
  ∃ bodies, List.Forall₂ (IsReadBody filter) (none :: turned.map (·.continuation)) bodies ∧
    x.Took (bodies.map (c.posted target)) x'

theorem read_followed (address : c.address? "read" = some url) (reachable : x.reachable = true)
    {turned : List Page} (more : ∀ page ∈ turned, ¬ page.IsLast)
    (served : List.Forall₂ Response.Serves (x.script.take turned.length) turned)
    {result : Except Engine.Error (List Tuple)}
    (ends : Ends url.text ((x.script.drop turned.length).headD exhausted) result)
    (filter : ReadFilter) :
    ∃ x', c.read filter x = (result.map (turned.flatMap (·.tuples) ++ ·), x') ∧
      c.Asked url.target filter turned x x' := by
  have enough : turned.length < x.script.length + 1 := by
    have length := served.length_eq
    rw [List.length_take] at length
    omega
  obtain ⟨took, answer⟩ :=
    readPages_followed filter address more reachable served ends enough none
  refine ⟨_, Prod.ext answer rfl, (none :: turned.map (·.continuation)).map (readBody filter), ?_,
    ?_⟩
  · rw [List.forall₂_map_right_iff]
    exact List.forall₂_same.mpr fun token _ => isReadBody_readBody filter token
  · rw [List.map_map]
    exact took

theorem attempt_answered {α : Type} (call : Exchange → Except Engine.Error α × Exchange)
    (x : Exchange) :
    Access.attempt false (answered call) x = ((call x).1.mapError .engine, (call x).2) := by
  rw [Access.attempt, if_neg Bool.false_ne_true, answered]
  obtain ⟨result, x'⟩ := call x
  cases result <;> rfl

theorem listAllObjects_of_read {accessor : Entity} {resourceType : String} {x x' : Exchange}
    {result : Except Engine.Error (List Tuple)}
    (read : c.read ⟨some accessor.reference, some (Naming.typeToken resourceType ++ ":")⟩ x =
      (result, x')) :
    listAllObjects c.engine false accessor resourceType x =
      ((result.mapError .engine).map fun tuples => Access.distinct (tuples.map (·.object)),
        x') := by
  simp only [listAllObjects, engine, attempt_answered, read]

theorem listAllAccessors_of_read {object : Entity} {x x' : Exchange}
    {result : Except Engine.Error (List Tuple)}
    (read : c.read ⟨none, some object.reference⟩ x = (result, x')) :
    listAllAccessors c.engine false object x =
      ((result.mapError .engine).map fun tuples => Access.distinct (tuples.map (·.user)), x') := by
  simp only [listAllAccessors, engine, attempt_answered, read]

/-- Of a server that serves pages, each but the last with a token for the next, a read takes one
request for each page, and gives the tuples of all pages in order; so the queries for all objects
and for all accessors give each object and each user of any page once, in the order in which they
first come. When a response serves no page, the read and the queries fail with it, and nothing more
is sent. -/
theorem queries_follow_pages (c : Client) (url : Url) (x : Exchange) (turned : List Page) :
    c.address? "read" = some url → x.reachable = true → (∀ page ∈ turned, ¬ page.IsLast) →
    List.Forall₂ Response.Serves (x.script.take turned.length) turned →
    let next := (x.script.drop turned.length).headD exhausted
    let objectsOf (accessor : Entity) (resourceType : String) : ReadFilter :=
      ⟨some accessor.reference, some (Naming.typeToken resourceType ++ ":")⟩
    let usersOf (object : Entity) : ReadFilter := ⟨none, some object.reference⟩
    (∀ page, next.Serves page → page.IsLast →
      let tuples := (turned ++ [page]).flatMap (·.tuples)
      (∀ filter, ∃ x', c.read filter x = (.ok tuples, x') ∧
        c.Asked url.target filter turned x x') ∧
      (∀ accessor resourceType, ∃ objects x',
        listAllObjects c.engine false accessor resourceType x = (.ok objects, x') ∧
          c.Asked url.target (objectsOf accessor resourceType) turned x x' ∧
          FirstSeen objects (tuples.map (·.object))) ∧
      ∀ object, ∃ users x', listAllAccessors c.engine false object x = (.ok users, x') ∧
        c.Asked url.target (usersOf object) turned x x' ∧ FirstSeen users (tuples.map (·.user))) ∧
    ((∀ page, ¬ next.Serves page) →
      (∀ filter, ∃ e x', c.read filter x = (.error e, x') ∧
        c.Asked url.target filter turned x x') ∧
      (∀ accessor resourceType, ∃ e x',
        listAllObjects c.engine false accessor resourceType x = (.error e, x') ∧
          c.Asked url.target (objectsOf accessor resourceType) turned x x') ∧
      ∀ object, ∃ e x', listAllAccessors c.engine false object x = (.error e, x') ∧
        c.Asked url.target (usersOf object) turned x x') := by
  intro address reachable more served next objectsOf usersOf
  refine ⟨fun page serves last => ?_, fun nothing => ?_⟩
  · have reads (filter : ReadFilter) := read_followed address reachable more served
      (.last serves last) filter
    have all : turned.flatMap (·.tuples) ++ page.tuples =
        (turned ++ [page]).flatMap (·.tuples) := by
      rw [List.flatMap_append, List.flatMap_singleton]
    simp only [Except.map, all] at reads
    refine ⟨reads, fun accessor resourceType => ?_, fun object => ?_⟩
    · obtain ⟨x', read, asked⟩ := reads (objectsOf accessor resourceType)
      exact ⟨_, x', listAllObjects_of_read read, asked, Access.firstSeen_distinct _⟩
    · obtain ⟨x', read, asked⟩ := reads (usersOf object)
      exact ⟨_, x', listAllAccessors_of_read read, asked, Access.firstSeen_distinct _⟩
  · obtain ⟨e, outcome⟩ := Response.outcome_of_serves_nothing nothing url.text
    have reads (filter : ReadFilter) := read_followed address reachable more served
      (.failed outcome) filter
    refine ⟨fun filter => ⟨e, reads filter⟩, fun accessor resourceType => ?_, fun object => ?_⟩
    · obtain ⟨x', read, asked⟩ := reads (objectsOf accessor resourceType)
      exact ⟨.engine e, x', listAllObjects_of_read read, asked⟩
    · obtain ⟨x', read, asked⟩ := reads (usersOf object)
      exact ⟨.engine e, x', listAllAccessors_of_read read, asked⟩

/-! ## Two pages -/

/-- A page with one form, and with a token for the next. -/
def firstPage : Response :=
  .reply 200 ("\x7b\"tuples\":[\x7b\"key\":\x7b\"user\":\"user:a\",\"relation\":\"reader\"," ++
    "\"object\":\"form:1\"\x7d\x7d],\"continuation_token\":\"n\"\x7d")

/-- A page with the same form, and without a token. -/
def secondPage : Response :=
  .reply 200 ("\x7b\"tuples\":[\x7b\"key\":\x7b\"user\":\"user:a\",\"relation\":\"editor\"," ++
    "\"object\":\"form:1\"\x7d\x7d]\x7d")

theorem serves_of_read {response : Response} {objects : List String} {token : Option String}
    (h : (response.read? page?).map (fun page => (page.tuples.map (·.object), page.continuation)) =
      some (objects, token)) :
    ∃ page, response.Serves page ∧ page.tuples.map (·.object) = objects ∧
      page.continuation = token := by
  obtain ⟨page, read, held⟩ := Option.map_eq_some_iff.mp h
  obtain ⟨rfl, rfl⟩ := Prod.mk.inj held
  exact ⟨page, Response.read?_page_iff.mp read, rfl, rfl⟩

/-- The form of both pages is listed after two requests. -/
theorem queries_follow_pages_two :
    let x : Exchange := { script := [firstPage, secondPage, firstPage] }
    (localClient.address? "read").isSome = true ∧ x.reachable = true ∧
    ∃ page, firstPage.Serves page ∧ ¬ page.IsLast ∧
    ∃ last, secondPage.Serves last ∧ last.IsLast ∧
    ∃ objects x', listAllObjects localClient.engine false ⟨"User", "a"⟩ "Form" x =
        (.ok objects, x') ∧ (x.rounds x').length = 2 ∧
      FirstSeen objects ["form:1", "form:1"] := by
  intro x
  have addressed : (localClient.address? "read").isSome = true := by decide +kernel
  obtain ⟨url, address⟩ := Option.isSome_iff_exists.mp addressed
  obtain ⟨page, serves, objects, token⟩ := @serves_of_read firstPage ["form:1"] (some "n")
    (by decide +kernel)
  obtain ⟨last, serves', objects', token'⟩ := @serves_of_read secondPage ["form:1"] none
    (by decide +kernel)
  have more : ¬ page.IsLast := by simp [Page.IsLast, token]
  obtain ⟨listed, x', read, asked, distinct⟩ := ((queries_follow_pages localClient url x [page]
    address rfl (List.forall_mem_singleton.mpr more) (.cons serves .nil)).1 last serves'
    (.inl token')).2.1 ⟨"User", "a"⟩ "Form"
  refine ⟨addressed, rfl, page, serves, more, last, serves', .inl token', listed, x', read, ?_, ?_⟩
  · obtain ⟨bodies, each, took⟩ := asked
    rw [took.rounds_eq, Exchange.answers, List.length_mapIdx, List.length_map, ← each.length_eq]
    rfl
  · simpa [objects, objects'] using distinct

end Client

end Rebac.Http
