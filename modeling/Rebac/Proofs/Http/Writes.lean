import Rebac.Proofs.Engine.Stored
import Rebac.Proofs.Http.Transcript
import Rebac.Proofs.Tuple

/-!
# Writes in parts

What the requests of a write carry, and how its parts are sent: one round each, in order, up to the
first that the server does not accept.
-/

namespace Rebac

/-! ## Tuples on the wire -/

theorem Tuple.toJson_mem {t : Tuple} {tuples : List Tuple} :
    t.toJson ∈ tuples.map Tuple.toJson ↔ t ∈ tuples := by
  simp [Tuple.roundTrips.write_inj]

theorem Tuple.stripped_of_unconditional {t : Tuple} (h : t.condition = none) : t.stripped = t := by
  cases t
  cases h
  rfl

namespace Engine

/-- The tuple that a change writes or deletes. -/
def Change.tuple : Change → Tuple
  | .write t | .delete t => t

/-- The name of the section in which a write request has a change. -/
def Change.sectionName : Change → String
  | .write _ => "writes"
  | .delete _ => "deletes"

/-- Whether writes and deletes, as they are sent together, have a change. -/
def Change.IsIn (sent : List Tuple × List Tuple) : Change → Prop
  | .write t => t ∈ sent.1
  | .delete t => t ∈ sent.2

theorem Change.isIn_part {change other : Change} : other.IsIn change.part ↔ other = change := by
  cases change <;> cases other <;> simp [Change.IsIn, Change.part]

theorem WriteRequest.mem_changes {request : WriteRequest} {change : Change} :
    change ∈ request.changes ↔ change.IsIn (request.writes, request.deletes) := by
  cases change <;> simp [WriteRequest.changes, Change.IsIn]

/-- A write and a delete of one tuple are two changes. -/
theorem WriteRequest.nodup_changes {request : WriteRequest} (writes : request.writes.Nodup)
    (deletes : request.deletes.Nodup) : request.changes.Nodup := by
  refine List.nodup_append.2
    ⟨List.Pairwise.map _ (fun _ _ other same => other (Change.write.inj same)) writes,
      List.Pairwise.map _ (fun _ _ other same => other (Change.delete.inj same)) deletes, ?_⟩
  rintro _ written _ deleted rfl
  obtain ⟨_, _, rfl⟩ := List.mem_map.mp written
  obtain ⟨_, _, same⟩ := List.mem_map.mp deleted
  cases same

end Engine

namespace Http

open Engine (Change WriteRequest)

/-! ## What a request carries -/

/-- The tuples in a section of a write, as they are sent. -/
def Received.tupleKeys (request : Received) (name : String) : List Json :=
  (((request.body.bind (·.get? name)).bind (·.get? "tuple_keys")).bind Json.arr?).getD []

/-- The request has a change in its section. -/
def Received.Has (request : Received) (change : Change) : Prop :=
  change.tuple.toJson ∈ request.tupleKeys change.sectionName

theorem tupleKeys_writes (c : Client) (target : String) (writes deletes : List Tuple) :
    (c.posted target (writeBody writes deletes c.modelId)).tupleKeys "writes" =
      writes.map Tuple.toJson := by
  cases writes <;> cases deletes <;> cases model : c.modelId <;>
    simp [Received.tupleKeys, Client.posted, writeBody, tupleSection, modelMember, optionalMember,
      Json.get?, Json.arr?, Keyed.find?]

/-- The tuples to delete are sent without their conditions. -/
theorem tupleKeys_deletes (c : Client) (target : String) (writes deletes : List Tuple) :
    (c.posted target (writeBody writes deletes c.modelId)).tupleKeys "deletes" =
      (deletes.map Tuple.stripped).map Tuple.toJson := by
  cases writes <;> cases deletes <;> cases model : c.modelId <;>
    simp [Received.tupleKeys, Client.posted, writeBody, tupleSection, modelMember, optionalMember,
      Json.get?, Json.arr?, Keyed.find?]

/-- The request of a part has the changes of that part. -/
theorem posted_has {c : Client} {target : String} {writes deletes : List Tuple}
    (unconditional : ∀ t ∈ deletes, t.condition = none) {change : Change} :
    (c.posted target (writeBody writes deletes c.modelId)).Has change ↔
      change.IsIn (writes, deletes) := by
  have stripped : deletes.map Tuple.stripped = deletes := by
    have same := fun t member => Tuple.stripped_of_unconditional (unconditional t member)
    rw [List.map_congr_left same, List.map_id']
  cases change with
  | write t =>
    simp only [Received.Has, Change.sectionName, Change.tuple, tupleKeys_writes, Tuple.toJson_mem,
      Change.IsIn]
  | delete t =>
    simp only [Received.Has, Change.sectionName, Change.tuple, tupleKeys_deletes, stripped,
      Tuple.toJson_mem, Change.IsIn]

/-! ## Changes made -/

/-- Whether the server accepted a request. -/
def Response.isAccepted : Response → Bool
  | .reply status _ => isSuccess status
  | .dropped => false

/-- In this round the server accepted a change. -/
def Round.Makes (round : Round) (change : Change) : Prop :=
  round.request.method = .post ∧ round.request.Has change ∧ round.response.isAccepted = true

open Classical in
/-- In how many of the rounds the server accepted a change. -/
noncomputable def timesMade (change : Change) (rounds : List Round) : Nat :=
  rounds.countP fun round => round.Makes change

theorem timesMade_append (change : Change) (a b : List Round) :
    timesMade change (a ++ b) = timesMade change a + timesMade change b := List.countP_append

/-- How many of the requests the server accepted. -/
def accepted (rounds : List Round) : Nat := rounds.countP (·.response.isAccepted)

/-- Every response with success has a JSON document. -/
def Exchange.AnswersJson (x : Exchange) : Prop :=
  ∀ status body, Response.reply status body ∈ x.script → isSuccess status = true →
    (Json.readAsWritten? body).isSome = true

theorem Exchange.Took.answersJson {x x' : Exchange} {requests : List Received}
    (took : x.Took requests x') (h : x.AnswersJson) : x'.AnswersJson := by
  intro status body member
  rw [took.script] at member
  exact h status body (List.mem_of_mem_drop member)

/-- Where every success has a document, the client takes a response exactly for what it is. -/
theorem Exchange.AnswersJson.read?_iff {x : Exchange} (h : x.AnswersJson) :
    (x.script.headD exhausted).read?
        (fun body => (Json.readAsWritten? body).map fun _ => ()) = some () ↔
      (x.script.headD exhausted).isAccepted = true := by
  cases script : x.script with
  | nil => decide
  | cons response rest =>
    cases response with
    | dropped => simp [Response.read?, Response.isAccepted]
    | reply status body =>
      have document := h status body (by rw [script]; exact List.mem_cons_self ..)
      simp only [List.headD_cons, Response.read?, Response.isAccepted]
      cases success : isSuccess status with
      | false => simp
      | true => simpa [Option.isSome_iff_exists] using document success

namespace Client

/-! ## The rounds of a write -/

/-- The rounds that parts of a write take one after the other, and whether all were accepted. -/
inductive Sent (c : Client) (target : String) :
    List (List Tuple × List Tuple) → List Round → Bool → Prop where
  | done : Sent c target [] [] true
  | refused {writes deletes : List Tuple} {parts : List (List Tuple × List Tuple)}
      {response : Response} (refused : response.isAccepted = false) :
    Sent c target ((writes, deletes) :: parts)
      [⟨c.posted target (writeBody writes deletes c.modelId), response⟩] false
  | passed {writes deletes : List Tuple} {parts : List (List Tuple × List Tuple)}
      {response : Response} {rounds : List Round} {ok : Bool}
      (accepted : response.isAccepted = true) (later : Sent c target parts rounds ok) :
    Sent c target ((writes, deletes) :: parts)
      (⟨c.posted target (writeBody writes deletes c.modelId), response⟩ :: rounds) ok

variable {c : Client} {target : String}

/-- A part is one round, and succeeds where the server accepts it. -/
theorem postWrite_sent (sendable : c.target? "write" = some target) {x : Exchange}
    (reachable : x.reachable = true) (plain : x.AnswersJson) (writes deletes : List Tuple) :
    let out := c.postWrite writes deletes x
    x.Took [c.posted target (writeBody writes deletes c.modelId)] out.2 ∧
      (out.1 = .ok () ↔ (x.script.headD exhausted).isAccepted = true) := by
  obtain ⟨took, answer⟩ := postToStore_sent (writeBody writes deletes c.modelId)
    (fun body => (Json.readAsWritten? body).map fun _ => ()) sendable reachable
  exact ⟨took, (answer ()).trans plain.read?_iff⟩

/-- Parts are sent one after the other. -/
theorem postWrites_sent (sendable : c.target? "write" = some target)
    (parts : List (List Tuple × List Tuple)) {x : Exchange} (reachable : x.reachable = true)
    (plain : x.AnswersJson) :
    let out := c.postWrites parts x
    ∃ requests, x.Took requests out.2 ∧
      Sent c target parts (x.answers requests) out.1.toOption.isSome := by
  induction parts generalizing x with
  | nil => exact ⟨[], .refl x, .done⟩
  | cons p parts ih =>
    obtain ⟨writes, deletes⟩ := p
    obtain ⟨took, answer⟩ := postWrite_sent sendable reachable plain writes deletes
    simp only [postWrites]
    generalize c.postWrite writes deletes x = out at took answer
    obtain ⟨result, x'⟩ := out
    cases result with
    | error e =>
      refine ⟨_, took, ?_⟩
      rw [Exchange.answers_singleton]
      exact .refused (Bool.eq_false_iff.mpr fun accepted => nomatch answer.mpr accepted)
    | ok =>
      obtain ⟨requests, later, run⟩ := ih (took.reachable.trans reachable) (took.answersJson plain)
      refine ⟨_, took.trans later, ?_⟩
      rw [took.answers_append, Exchange.answers_singleton]
      exact .passed (answer.mp rfl) run

/-- A write that cannot be sent fails with its first part. -/
theorem postWrites_unsent {x : Exchange} (h : c.target? "write" = none ∨ x.reachable = false)
    (p : List Tuple × List Tuple) (parts : List (List Tuple × List Tuple)) :
    ∃ e, c.postWrites (p :: parts) x = (.error e, x) := by
  obtain ⟨writes, deletes⟩ := p
  obtain ⟨e, failed⟩ := postToStore_unsent (writeBody writes deletes c.modelId)
    (fun body => (Json.readAsWritten? body).map fun _ => ()) h
  exact ⟨e, by simp only [postWrites, postWrite, failed]⟩

variable {parts : List (List Tuple × List Tuple)} {rounds : List Round} {ok : Bool}

/-- A write succeeds when all of its parts are accepted. -/
theorem Sent.accepted_eq (run : Sent c target parts rounds ok) :
    if ok then accepted rounds = parts.length else accepted rounds < parts.length := by
  induction run with
  | done => rfl
  | refused refused => simp [accepted, refused]
  | passed passed _ ih => cases ‹Bool› <;> simpa [accepted, passed] using ih

open Classical in
/-- The changes made are those of the parts that were accepted, which are the first ones. -/
theorem Sent.timesMade_eq (run : Sent c target parts rounds ok)
    (unconditional : ∀ p ∈ parts, ∀ t ∈ p.2, t.condition = none) (change : Change) :
    timesMade change rounds = (parts.take (accepted rounds)).countP fun p => change.IsIn p := by
  induction run with
  | done => rfl
  | refused refused => simp [timesMade, accepted, Round.Makes, refused]
  | @passed writes deletes parts response rounds ok passed _ ih =>
    have first := unconditional _ (List.mem_cons_self ..)
    have made : (⟨c.posted target (writeBody writes deletes c.modelId), response⟩ : Round).Makes
        change ↔ change.IsIn (writes, deletes) := by
      simp only [Round.Makes, posted_has first, passed, and_true]
      exact and_iff_right rfl
    have counted : accepted (⟨c.posted target (writeBody writes deletes c.modelId), response⟩ ::
        rounds) = accepted rounds + 1 := by
      simp [accepted, passed]
    rw [counted, List.take_succ_cons, List.countP_cons,
      ← ih fun p member => unconditional p (List.mem_cons_of_mem _ member), timesMade,
      List.countP_cons]
    simp only [made, timesMade]

end Client

end Http

end Rebac
