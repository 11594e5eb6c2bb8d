import Rebac.Proofs.Http.Answer
import Rebac.Proofs.Http.Transcript

/-!
# What pages hold

The responses to reads, as documents: which of them serve a page, with what tuples and what
continuation.
-/

namespace Rebac.Http

open Json (Shape)

/-! ## Documents of pages -/

/-- What an entry of a page looks like. -/
def entryShape : Shape := .record [("key", Tuple.shape)]

/-- What a page looks like. -/
def pageShape : Shape := .record [("tuples", .list entryShape), ("continuation_token", .free)]

/-- The tuple in a document, as the client takes it. -/
def tuple? (doc : Json) : Option Tuple := (Tuple.shape.restrict? doc).bind Tuple.ofRecord?

/-- An entry of a page is a record with the tuple under its key. -/
structure IsEntry (entry : Json) (t : Tuple) : Prop where
  record : entry.isRecord ["key"] = true
  key : ∃ key, entry.given 0 "key" = [key] ∧ tuple? key = some t

/-- The tuples that are given for a page: a list with an entry for each. It may be missing. -/
inductive GivesTuples : List Json → List Tuple → Prop where
  | missing : GivesTuples [] []
  | entries {entries : List Json} {tuples : List Tuple}
      (each : List.Forall₂ IsEntry entries tuples) : GivesTuples [.arr entries] tuples

/-- The token that is given for a continuation. It may be missing or null. -/
inductive GivesToken : List Json → Option String → Prop where
  | missing : GivesToken [] none
  | null : GivesToken [.null] none
  | text (token : String) : GivesToken [.str token] (some token)

/-- A document is a page: a record with its tuples and its continuation. -/
structure IsPage (doc : Json) (page : Page) : Prop where
  record : doc.isRecord ["tuples", "continuation_token"] = true
  tuples : GivesTuples (doc.given 0 "tuples") page.tuples
  token : GivesToken (doc.given 1 "continuation_token") page.continuation

/-- A response serves a page: with success, and with a body that is taken for a document of the
page. -/
structure Response.Serves (response : Response) (page : Page) : Prop where
  served : ∃ status body doc, response = .reply status body ∧ isSuccess status = true ∧
    TakenFor pageShape body doc ∧ IsPage doc page

/-! ## Reading them -/

/-- The tuple of an entry, as the client reads it. -/
def entryTuple? (j : Json) : Option Tuple := do
  (← j.fields? ["key"]).required? "key" Tuple.ofRecord?

/-- A page, as the client reads it from what it asks of a document. -/
def pageOf? (j : Json) : Option Page := do
  let f ← j.fields? ["tuples", "continuation_token"]
  return ⟨← f.defaulted? "tuples" [] (Json.list? entryTuple?),
    ← f.nullable? "continuation_token" Json.str?⟩

theorem page?_eq (body : String) : page? body = (pageShape.read? body).bind pageOf? := rfl

/-- The tuple of an entry is read as it is given. -/
theorem key_eq_some_iff {given : List Json} {f : Json.Fields} {t : Tuple}
    (field : Json.Field given Tuple.shape (Keyed.find? f.values "key")) :
    f.required? "key" Tuple.ofRecord? = some t ↔ ∃ key, given = [key] ∧ tuple? key = some t := by
  simp only [Json.Fields.required?]
  obtain ⟨rfl, absent⟩ | ⟨key, v, rfl, asked, held⟩ := field
  · rw [absent]
    constructor
    · intro read
      cases read
    · rintro ⟨key, alone, -⟩
      cases alone
  · rw [held]
    have taken : tuple? key = Tuple.ofRecord? v := by
      rw [tuple?, asked]
      rfl
    constructor
    · intro read
      exact ⟨key, rfl, taken.trans read⟩
    · rintro ⟨key', alone, read⟩
      cases alone
      exact taken.symm.trans read

theorem entry_eq_some_iff {entry : Json} {t : Tuple} :
    (entryShape.restrict? entry).bind entryTuple? = some t ↔ IsEntry entry t := by
  have given : IsEntry entry t ↔ entry.isRecord ["key"] = true ∧
      ∃ key, entry.given 0 "key" = [key] ∧ tuple? key = some t :=
    ⟨fun h => ⟨h.record, h.key⟩, fun h => ⟨h.1, h.2⟩⟩
  rw [given]
  refine Shape.record_eq_some_iff (by decide) ?_ ?_
  · exact fun f fields => key_eq_some_iff (fields 0 _ _ rfl)
  · rintro ⟨key, alone, held⟩ place name shape here j member
    cases place with
    | succ place => cases here
    | zero =>
      cases here
      obtain ⟨v, asked, -⟩ := Option.bind_eq_some_iff.1 held
      rw [alone, List.mem_singleton] at member
      rw [member, asked]
      rfl

/-- The tuples of a page are read as they are given. -/
theorem tuples_eq_some_iff {given : List Json} {f : Json.Fields} {tuples : List Tuple}
    (field : Json.Field given (.list entryShape) (Keyed.find? f.values "tuples")) :
    f.defaulted? "tuples" [] (Json.list? entryTuple?) = some tuples ↔
      GivesTuples given tuples := by
  simp only [Json.Fields.defaulted?]
  obtain ⟨rfl, absent⟩ | ⟨j, v, rfl, asked, held⟩ := field
  · rw [absent]
    constructor
    · intro same
      cases same
      exact .missing
    · intro given
      cases given with
      | missing => rfl
  · rw [held]
    have list : v.list? entryTuple? = some tuples ↔
        ∃ js, j = .arr js ∧ List.Forall₂ IsEntry js tuples := by
      have items := @Shape.list_eq_some_iff _ entryShape entryTuple? j tuples
      rw [asked] at items
      simpa only [Option.bind_some, entry_eq_some_iff] using items
    refine list.trans ⟨?_, ?_⟩
    · rintro ⟨js, rfl, each⟩
      exact .entries each
    · intro given
      cases given with
      | entries each => exact ⟨_, rfl, each⟩

/-- The token of a page is read as it is given. -/
theorem token_eq_some_iff {given : List Json} {f : Json.Fields} {token : Option String}
    (field : Json.Field given .free (Keyed.find? f.values "continuation_token")) :
    f.nullable? "continuation_token" Json.str? = some token ↔ GivesToken given token := by
  simp only [Json.Fields.nullable?]
  obtain ⟨rfl, absent⟩ | ⟨j, v, rfl, asked, held⟩ := field
  · rw [absent]
    constructor
    · intro same
      cases same
      exact .missing
    · intro given
      cases given with
      | missing => rfl
  · rw [held]
    rw [Json.restrict?_free] at asked
    cases asked
    constructor
    · intro read
      cases j <;> cases read
      · exact .null
      · exact .text _
    · rintro (_ | _ | _) <;> rfl

/-- Entries that can be taken as tuples can be read. -/
theorem GivesTuples.readable {given : List Json} {tuples : List Tuple}
    (gives : GivesTuples given tuples) {j : Json} (mem : j ∈ given) :
    ((Shape.list entryShape).restrict? j).isSome := by
  cases gives with
  | missing => cases mem
  | @entries entries _ each =>
    have listed := Shape.list_eq_some_iff.2
      ⟨entries, rfl, each.imp fun _ _ => entry_eq_some_iff.2⟩
    obtain ⟨view, asked, -⟩ := Option.bind_eq_some_iff.1 listed
    rw [List.mem_singleton.1 mem, asked]
    rfl

theorem page_eq_some_iff {doc : Json} {page : Page} :
    (pageShape.restrict? doc).bind pageOf? = some page ↔ IsPage doc page := by
  have given : IsPage doc page ↔ doc.isRecord ["tuples", "continuation_token"] = true ∧
      GivesTuples (doc.given 0 "tuples") page.tuples ∧
      GivesToken (doc.given 1 "continuation_token") page.continuation :=
    ⟨fun h => ⟨h.record, h.tuples, h.token⟩, fun h => ⟨h.1, h.2.1, h.2.2⟩⟩
  rw [given]
  refine Shape.record_eq_some_iff (by decide) ?_ ?_
  · intro f fields
    rw [← tuples_eq_some_iff (fields 0 _ _ rfl), ← token_eq_some_iff (fields 1 _ _ rfl)]
    simp only [Option.bind_eq_bind, Option.bind_eq_some_iff, Option.pure_def, Option.some.injEq]
    constructor
    · rintro ⟨_, tuples, _, token, rfl⟩
      exact ⟨tuples, token⟩
    · rintro ⟨tuples, token⟩
      exact ⟨_, tuples, _, token, rfl⟩
  · rintro ⟨tuples, -⟩ place name shape here j member
    match place with
    | 0 =>
      cases here
      exact tuples.readable member
    | 1 =>
      cases here
      rw [Json.restrict?_free]
      rfl
    | place + 2 => cases here

/-- The client reads a page from a response exactly when the response serves it. -/
theorem Response.read?_page_iff {response : Response} {page : Page} :
    response.read? page? = some page ↔ response.Serves page := by
  rw [Response.read?_eq_some]
  constructor
  · rintro ⟨status, body, reply, success, read⟩
    rw [page?_eq] at read
    obtain ⟨view, typed, held⟩ := Option.bind_eq_some_iff.1 read
    obtain ⟨doc, asked⟩ := Json.document_of_read? typed
    refine ⟨status, body, doc, reply, success, .inr (typed.trans asked.symm), ?_⟩
    exact page_eq_some_iff.1 (Option.bind_eq_some_iff.2 ⟨view, asked, held⟩)
  · rintro ⟨status, body, doc, reply, success, taken, shown⟩
    refine ⟨status, body, reply, success, ?_⟩
    rw [page?_eq, taken.read]
    exact page_eq_some_iff.2 shown

end Rebac.Http
