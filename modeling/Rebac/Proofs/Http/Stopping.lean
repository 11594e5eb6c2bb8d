import Mathlib.Data.List.Forall2
import Rebac.Proofs.Http.Writes

/-!
# Where a write stops

The requests that a write consists of, and how many of them are sent: each one is sent when all
before it brought a document, so the last one sent is the first that failed, and its failure is the
failure of the write.
-/

namespace Rebac.Http

open Engine (Change WriteRequest)

/-! ## The body of a write -/

/-- The members of the body of a write: a section for the writes and one for the deletes, which go
without conditions, and the authorization model. What is empty or unknown has no member. -/
inductive WriteMember (modelId : Option String) (writes deletes : List Tuple) :
    String → Json → Prop where
  | writes (given : writes ≠ []) :
    WriteMember modelId writes deletes "writes"
      (.obj [("tuple_keys", .arr (writes.map Tuple.toJson))])
  | deletes (given : deletes ≠ []) :
    WriteMember modelId writes deletes "deletes"
      (.obj [("tuple_keys",
        .arr (deletes.map fun t => (Tuple.ofRelationship t.relationship).toJson))])
  | model {id : String} (known : modelId = some id) :
    WriteMember modelId writes deletes "authorization_model_id" (.str id)

/-- The body of a write is an object of its members, each of them once. -/
def IsWriteBody (modelId : Option String) (part : List Tuple × List Tuple) (body : Json) : Prop :=
  ∃ members, body = .obj members ∧ (members.map (·.1)).Nodup ∧
    ∀ name value, (name, value) ∈ members ↔ WriteMember modelId part.1 part.2 name value

theorem mem_tupleSection {name : String} {tuples : List Tuple} {member : String × Json} :
    member ∈ tupleSection name tuples ↔
      tuples ≠ [] ∧ member = (name, .obj [("tuple_keys", .arr (tuples.map Tuple.toJson))]) := by
  cases tuples <;> simp [tupleSection]

theorem mem_modelMember {modelId : Option String} {member : String × Json} :
    member ∈ modelMember modelId ↔
      ∃ id, modelId = some id ∧ member = ("authorization_model_id", .str id) := by
  cases modelId <;> simp [modelMember, optionalMember]

theorem tupleSection_names (name : String) (tuples : List Tuple) :
    ((tupleSection name tuples).map (·.1)).Sublist [name] := by
  cases tuples <;> simp [tupleSection]

theorem modelMember_names (modelId : Option String) :
    ((modelMember modelId).map (·.1)).Sublist ["authorization_model_id"] := by
  cases modelId <;> simp [modelMember, optionalMember]

/-- The body of a part lists its tuples, those to delete without their conditions, and leaves out a
list that is empty. -/
theorem isWriteBody_writeBody (modelId : Option String) (part : List Tuple × List Tuple) :
    IsWriteBody modelId part (writeBody part.1 part.2 modelId) := by
  refine ⟨_, rfl, ?_, fun name value => ?_⟩
  · have names : ["writes", "deletes", "authorization_model_id"].Nodup := by decide
    refine names.sublist ?_
    rw [List.map_append, List.map_append]
    exact ((tupleSection_names ..).append (tupleSection_names ..)).append (modelMember_names _)
  · rw [List.mem_append, List.mem_append, mem_tupleSection, mem_tupleSection, mem_modelMember]
    constructor
    · rintro ((⟨given, same⟩ | ⟨given, same⟩) | ⟨id, known, same⟩) <;> cases same
      · exact .writes given
      · rw [List.map_map]
        exact .deletes fun none => given (List.map_eq_nil_iff.mpr none)
      · exact .model known
    · rintro (given | given | known)
      · exact .inl (.inl ⟨given, rfl⟩)
      · refine .inl (.inr ⟨fun none => given (List.map_eq_nil_iff.mp none), ?_⟩)
        rw [List.map_map]
        rfl
      · exact .inr ⟨_, known, rfl⟩

/-! ## Rounds up to a failure -/

/-- The document in the body of a response, of which a write needs no more than that it is one. -/
def document? (body : String) : Option Unit := (Json.readAsWritten? body).map fun _ => ()

/-- A response with success and a document. -/
def Response.isDocument : Response → Bool
  | .reply status body => isSuccess status && (Json.readAsWritten? body).isSome
  | .dropped => false

/-- A write is done when its answer is a document, whatever it says. -/
theorem Response.read?_document {response : Response} :
    response.read? document? = some () ↔ response.isDocument = true := by
  cases response with
  | dropped => simp [Response.read?, Response.isDocument]
  | reply status body =>
    simp only [Response.read?, Response.isDocument, document?]
    cases isSuccess status <;> cases Json.readAsWritten? body <;> simp

/-- The rounds up to the first without a document: those before it, and itself. -/
def upToFailure (rounds : List Round) : List Round :=
  rounds.take ((rounds.takeWhile (·.response.isDocument)).length + 1)

theorem upToFailure_passed {round : Round} (h : round.response.isDocument = true)
    (rounds : List Round) : upToFailure (round :: rounds) = round :: upToFailure rounds := by
  simp [upToFailure, h]

/-- Nothing is sent after a failure. -/
theorem upToFailure_failed {round : Round} (h : round.response.isDocument = false)
    (rounds : List Round) : upToFailure (round :: rounds) = [round] := by
  simp [upToFailure, h]

/-- What rounds mean for a write that consists of them: it succeeds when each of them has a
document, and otherwise fails as the last one did. -/
inductive Settles (address : String) (rounds : List Round) : Except Engine.Error Unit → Prop where
  | ok (passed : ∀ round ∈ rounds, round.response.isDocument = true) :
    Settles address rounds (.ok ())
  | error {last : Round} {e : Engine.Error} (last_round : rounds.getLast? = some last)
      (outcome : last.response.outcome document? address = .error e) :
    Settles address rounds (.error e)

/-- A failure is no document. -/
theorem Response.isDocument_of_outcome {response : Response} {address : String} {e : Engine.Error}
    (h : response.outcome document? address = .error e) : response.isDocument = false := by
  refine Bool.eq_false_iff.mpr fun document => ?_
  have ok : response.outcome document? address = .ok () :=
    Response.outcome_eq_ok.mpr (Response.read?_document.mpr document)
  rw [h] at ok
  cases ok

theorem Settles.passed {address : String} {round : Round} {rounds : List Round}
    {result : Except Engine.Error Unit} (h : round.response.isDocument = true)
    (later : Settles address rounds result) : Settles address (round :: rounds) result := by
  cases later with
  | ok passed => exact .ok (List.forall_mem_cons.mpr ⟨h, passed⟩)
  | error last_round outcome =>
    exact .error (by rw [List.getLast?_cons, last_round, Option.getD_some]) outcome

/-- Rounds that settle a write succeed with it or fail with it. -/
theorem Settles.ok_iff {address : String} {rounds : List Round} {result : Except Engine.Error Unit}
    (h : Settles address rounds result) :
    result = .ok () ↔ ∀ round ∈ rounds, round.response.isDocument = true := by
  cases h with
  | ok passed => exact ⟨fun _ => passed, fun _ => rfl⟩
  | @error last e last_round outcome =>
    refine ⟨(nomatch ·), fun passed => ?_⟩
    have document := passed last (List.mem_of_getLast? last_round)
    rw [Response.isDocument_of_outcome outcome] at document
    cases document

/-- A call that meets a failure ends there: its last round is the failure, and its result is that of
the round. -/
theorem Settles.failed {address : String} {rounds : List Round} {result : Except Engine.Error Unit}
    (h : Settles address rounds result)
    (failure : ∃ round ∈ rounds, round.response.isDocument = false) :
    ∃ last e, rounds.getLast? = some last ∧ last.response.outcome document? address = .error e ∧
      result = .error e := by
  cases h with
  | ok passed =>
    obtain ⟨round, member, failed⟩ := failure
    rw [passed round member] at failed
    cases failed
  | error last_round outcome => exact ⟨_, _, last_round, outcome, rfl⟩

namespace Client

variable {c : Client} {url : Url}

/-- The request that a part of a write is sent as. -/
def partRequest (c : Client) (target : String) (part : List Tuple × List Tuple) : Received :=
  c.posted target (writeBody part.1 part.2 c.modelId)

/-- Parts are sent up to the first that brings no document. -/
theorem postWrites_answered (address : c.address? "write" = some url)
    (parts : List (List Tuple × List Tuple)) {x : Exchange} (reachable : x.reachable = true) :
    let out := c.postWrites parts x
    let sent := upToFailure (x.answers (parts.map (c.partRequest url.target)))
    x.Took (sent.map (·.request)) out.2 ∧ Settles url.text sent out.1 := by
  induction parts generalizing x with
  | nil => exact ⟨.refl x, .ok (List.forall_mem_nil _)⟩
  | cons p parts ih =>
    obtain ⟨writes, deletes⟩ := p
    obtain ⟨took, answer⟩ := postToStore_answered (writeBody writes deletes c.modelId) document?
      address reachable
    have first : (c.partRequest url.target (writes, deletes)) =
        c.posted url.target (writeBody writes deletes c.modelId) := rfl
    have planned := took.answers_append (parts.map (c.partRequest url.target))
    rw [Exchange.answers_singleton, List.singleton_append, List.singleton_append] at planned
    simp only [postWrites, List.map_cons, first, planned]
    have same : c.postWrite writes deletes x =
      c.postToStore "write" (writeBody writes deletes c.modelId) document? x := rfl
    rw [same]
    generalize c.postToStore "write" (writeBody writes deletes c.modelId) document? x = out
      at took answer planned
    obtain ⟨result, x'⟩ := out
    cases result with
    | error e =>
      rw [upToFailure_failed (Response.isDocument_of_outcome answer.symm)]
      exact ⟨took, .error rfl answer.symm⟩
    | ok =>
      have passed := Response.read?_document.mp (Response.outcome_eq_ok.mp answer.symm)
      obtain ⟨later, settled⟩ := ih (took.reachable.trans reachable)
      rw [upToFailure_passed passed]
      exact ⟨took.trans later, settled.passed passed⟩

/-- A write sends the requests of its parts, each with the members that its part calls for, up to
the first that brings no document. It succeeds, with the tuples it was given, when each request sent
brought one, and otherwise fails as the last request sent did. Where no request can be made, nothing
is sent, and only a write without parts succeeds. -/
theorem write_sends_up_to_failure (c : Client) (request : WriteRequest) (x : Exchange) :
    let out := c.write request x
    let receipt : Engine.WriteReceipt := ⟨request.writes, request.deletes⟩
    let parts : List (List Tuple × List Tuple) :=
      if request.transactional then [(request.writes, request.deletes)]
      else request.writes.map (fun t => ([t], [])) ++ request.deletes.map (fun t => ([], [t]))
    (∀ url, c.address? "write" = some url → x.reachable = true →
      ∃ bodies, List.Forall₂ (IsWriteBody c.modelId) parts bodies ∧
        let sent := upToFailure (x.answers (bodies.map (c.posted url.target)))
        x.Took (sent.map (·.request)) out.2 ∧
        (out.1 = .ok receipt ↔ ∀ round ∈ sent, round.response.isDocument = true) ∧
        ((∃ round ∈ sent, round.response.isDocument = false) →
          ∃ last e, sent.getLast? = some last ∧
            last.response.outcome document? url.text = .error e ∧ out.1 = .error e)) ∧
    (c.address? "write" = none ∨ x.reachable = false →
      out.2 = x ∧ (parts = [] → out.1 = .ok receipt) ∧ (parts ≠ [] → ∃ e, out.1 = .error e)) := by
  intro out receipt parts
  have result : out.1 = (c.postWrites parts x).1.map fun _ => receipt := rfl
  have after : out.2 = (c.postWrites parts x).2 := rfl
  have accepted : out.1 = .ok receipt ↔ (c.postWrites parts x).1 = .ok () := by
    rw [result]
    cases (c.postWrites parts x).1 <;> simp [Except.map]
  refine ⟨fun url address reachable => ?_, fun unsendable => ?_⟩
  · obtain ⟨took, settles⟩ := postWrites_answered address parts reachable
    refine ⟨parts.map fun p => writeBody p.1 p.2 c.modelId, ?_, ?_⟩
    · rw [List.forall₂_map_right_iff]
      exact List.forall₂_same.mpr fun p _ => isWriteBody_writeBody c.modelId p
    · rw [List.map_map]
      refine ⟨took, accepted.trans settles.ok_iff, fun failure => ?_⟩
      obtain ⟨last, e, last_round, outcome, failed⟩ := settles.failed failure
      exact ⟨last, e, last_round, outcome, by rw [result, failed]; rfl⟩
  · cases partsOf : parts with
    | nil =>
      rw [result, after, partsOf]
      exact ⟨rfl, fun _ => rfl, fun some => absurd rfl some⟩
    | cons p rest =>
      have unsent : c.target? "write" = none ∨ x.reachable = false :=
        unsendable.imp_left fun nowhere => by rw [target?, nowhere]; rfl
      obtain ⟨e, failed⟩ := postWrites_unsent unsent p rest
      rw [result, after, partsOf, failed]
      exact ⟨rfl, fun none => absurd none (List.cons_ne_nil p rest), fun _ => ⟨e, rfl⟩⟩

/-- Of two grants and a revocation, each sent on its own, the server refuses the second grant: the
revocation is not sent, and the write fails. -/
theorem write_sends_up_to_failure_refused :
    let request : WriteRequest :=
      ⟨[⟨"user:alice", "editor", "form:1", none⟩, ⟨"user:anne", "editor", "form:1", none⟩],
        [⟨"user:zoe", "editor", "form:1", none⟩], false⟩
    let x : Exchange := { script := [.reply 200 "\x7b\x7d", .reply 500 "", .reply 200 "\x7b\x7d"] }
    let out := localClient.write request x
    (localClient.address? "write").isSome = true ∧ x.reachable = true ∧
      (x.rounds out.2).length = 2 ∧ ∃ status code message,
        out.1 = .error (.api status code message) := by
  intro request x out
  have addressed : (localClient.address? "write").isSome = true := by decide +kernel
  refine ⟨addressed, rfl, ?_⟩
  obtain ⟨url, address⟩ := Option.isSome_iff_exists.mp addressed
  obtain ⟨bodies, each, took, -, failed⟩ :=
    (write_sends_up_to_failure localClient request x).1 url address rfl
  obtain ⟨first, second, third, rfl⟩ := List.length_eq_three.mp each.length_eq.symm
  have document : (Response.reply 200 "\x7b\x7d").isDocument = true := by decide +kernel
  have refused : (Response.reply 500 "").isDocument = false := rfl
  have sent : upToFailure
      (x.answers ([first, second, third].map (localClient.posted url.target))) =
      [⟨localClient.posted url.target first, .reply 200 "\x7b\x7d"⟩,
        ⟨localClient.posted url.target second, .reply 500 ""⟩] :=
    (upToFailure_passed document _).trans (congrArg _ (upToFailure_failed refused _))
  simp only [sent] at took failed
  obtain ⟨last, e, last_round, outcome, result⟩ := failed
    ⟨_, List.mem_cons_of_mem _ (List.mem_singleton_self _), refused⟩
  cases last_round
  cases outcome
  exact ⟨congrArg List.length took.rounds_eq, 500, _, _, result⟩

end Client

end Rebac.Http
