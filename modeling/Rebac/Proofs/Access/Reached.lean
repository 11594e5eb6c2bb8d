import Rebac.Access.Session
import Rebac.Engine.Recorded
import Rebac.Proofs.Access.Checks
import Rebac.Proofs.Access.Mutation
import Rebac.Proofs.Keyed

/-!
# Calls that reach the engine

Which request a call of a session stands for, if any, and what comes of it. Over any engine, a call
that fails moves no builder. Over the recorded engine a call is refused or done on the spot, is
cancelled beforehand, or reaches the engine, where it is logged and then fails or is answered.
-/

namespace Rebac.Access

open Engine (Answer Recorded recorded Request)

/-! ## Requests of calls -/

/-- The request of a commit, unless nothing is pending. -/
def Mutation.request? (m : Mutation) : Option Request :=
  if m.isEmpty then none else some (.write m.request)

/-- The request of a validation, unless nothing is pending. -/
def Checks.request? (c : Checks) : Validation → Option Request
  | .single => c.pending.head?.map .check
  | .each | .all | .any => if c.isEmpty then none else some (.checkBatch c.pending)

/-- The request of a query. -/
def Query.request : Query → Request
  | .objects accessor relation resourceType =>
    .listObjects accessor.reference relation (Naming.typeToken resourceType)
  | .allObjects accessor resourceType =>
    .read ⟨some accessor.reference, some (Naming.typeToken resourceType ++ ":")⟩
  | .accessors object relation accessorType =>
    .listUsers object.reference relation (Naming.typeToken accessorType)
  | .allAccessors object => .read ⟨none, some object.reference⟩
  | .members group memberType =>
    .listUsers group.reference memberRelation (Naming.typeToken memberType)

/-- The request of a call to the engine itself. -/
def Direct.request : Direct → Request
  | .write request => .write request
  | .check item => .check item
  | .checkBatch items => .checkBatch items
  | .listObjects user relation objectType => .listObjects user relation objectType
  | .listUsers object relation userType => .listUsers object relation userType
  | .read filter => .read filter

/-- Whether a call is cancelled beforehand. -/
def Step.cancelled : Step → Bool
  | .commit _ cancelled | .validate _ _ cancelled | .query _ cancelled
  | .addMembers _ _ _ cancelled | .addUsers _ _ _ _ cancelled | .direct _ cancelled => cancelled
  | .newMutation .. | .mutate .. | .newChecks .. | .ask .. | .withoutTransactions => false

namespace Session

variable {ε σ : Type}

/-- The request that a call stands for. A call on a builder alone has none, nor has one that would
send nothing. -/
def request? (s : Session ε σ) : Step → Option Request
  | .commit name _ => (s.mutation name).2.request?
  | .validate name how _ => (s.checksOf name).2.request? how
  | .query query _ => some query.request
  | .addMembers group memberType ids _ =>
    (s.permissions.mutate.addMany memberType ids memberRelation group).request?
  | .addUsers resource relation accessorType ids _ =>
    (s.permissions.mutate.addMany accessorType ids relation resource).request?
  | .direct call _ => some call.request
  | .newMutation .. | .mutate .. | .newChecks .. | .ask .. | .withoutTransactions => none

/-- The requests with which a call reaches the engine: none when it is cancelled beforehand. -/
def sent (s : Session ε σ) (call : Step) : List Request :=
  if call.cancelled then [] else (s.request? call).toList

/-! ## Builders -/

/-- Two sessions with the same builders: the mutation and the checks of each name are the same, with
what is pending and the remembered accessor. -/
def SameBuilders (s s' : Session ε σ) : Prop :=
  ∀ name, s'.mutation name = s.mutation name ∧ s'.checksOf name = s.checksOf name

theorem SameBuilders.refl (s : Session ε σ) : s.SameBuilders s := fun _ => ⟨rfl, rfl⟩

/-- After a mutation is put under a name, that name stands for it and every other for what it stood
for before. -/
theorem mutation_putMutation (s : Session ε σ) (name other : String) (m : ε × Mutation) :
    (s.putMutation name m).mutation other = if name = other then m else s.mutation other := by
  simp only [mutation, putMutation, Keyed.find?_put]
  split <;> rfl

theorem checksOf_putChecks (s : Session ε σ) (name other : String) (c : ε × Checks) :
    (s.putChecks name c).checksOf other = if name = other then c else s.checksOf other := by
  simp only [checksOf, putChecks, Keyed.find?_put]
  split <;> rfl

/-- Putting back a mutation that did not change moves no builder, also where the name is new: a name
that was never met stands for a fresh one. -/
theorem sameBuilders_putMutation (s : Session ε σ) (name : String) {m : Mutation}
    (kept : m = (s.mutation name).2) :
    s.SameBuilders (s.putMutation name ((s.mutation name).1, m)) := by
  intro other
  refine ⟨?_, rfl⟩
  rw [mutation_putMutation, kept]
  split
  · next same => rw [same]
  · rfl

theorem sameBuilders_putChecks (s : Session ε σ) (name : String) {c : Checks}
    (kept : c = (s.checksOf name).2) :
    s.SameBuilders (s.putChecks name ((s.checksOf name).1, c)) := by
  intro other
  refine ⟨rfl, ?_⟩
  rw [checksOf_putChecks, kept]
  split
  · next same => rw [same]
  · rfl

end Session

/-- A commit that fails gives its mutation back as it was. -/
theorem Mutation.commit_error {σ : Type} {m : Mutation} {engine : Engine σ} {cancelled : Bool}
    {s : σ} {e : Failure} (failed : (m.commit engine cancelled s).1.1 = .error e) :
    (m.commit engine cancelled s).1.2 = m := by
  rcases commit_cases m engine cancelled s with ⟨receipt, after, -, ok⟩ | ⟨e', after, error⟩
  · rw [ok] at failed
    cases failed
  · rw [error]

/-- A validation that fails gives its questions back, whether the engine failed or gave another
number of answers. -/
theorem Checks.validate_error {σ : Type} {c : Checks} {engine : Engine σ} {cancelled : Bool}
    {s : σ} {e : Failure} (failed : (c.validate engine cancelled s).1.1 = .error e) :
    (c.validate engine cancelled s).1.2 = c := by
  rcases validate_cases c engine cancelled s with ⟨outcomes, ok⟩ | ⟨e', error⟩
  · rw [ok] at failed
    cases failed
  · rw [error]

theorem Checks.validateSingle_error {σ : Type} {c : Checks} {engine : Engine σ} {cancelled : Bool}
    {s : σ} {e : Failure} (failed : (c.validateSingle engine cancelled s).1.1 = .error e) :
    (c.validateSingle engine cancelled s).1.2 = c := by
  unfold validateSingle at failed ⊢
  split
  · rfl
  · next first rest pending =>
    rcases tried : attempt cancelled (engine.check first) s with ⟨e' | allowed, after⟩
    · rfl
    · simp only [pending, tried] at failed
      cases failed

theorem map_eq_error {α β : Type} {x : Except Failure α} {f : α → β} {e : Failure} :
    x.map f = .error e ↔ x = .error e := by
  cases x <;> simp [Except.map]

namespace Session

variable {ε σ : Type}

/-- Over any engine, a call that fails leaves every builder as it was. -/
theorem sameBuilders_of_error {s : Session ε σ} {call : Step} {e : Failure}
    (failed : (s.step call).1 = .error e) : s.SameBuilders (s.step call).2 := by
  cases call with
  | newMutation | newChecks | withoutTransactions => cases failed
  | mutate name call =>
    simp only [step] at failed ⊢
    split at failed
    · cases failed
    · exact sameBuilders_putMutation s name rfl
  | ask name call =>
    simp only [step] at failed ⊢
    split at failed
    · cases failed
    · exact sameBuilders_putChecks s name rfl
  | commit name cancelled =>
    exact sameBuilders_putMutation s name (Mutation.commit_error (map_eq_error.mp failed))
  | validate name how cancelled =>
    cases how with
    | single =>
      have kept := Checks.validateSingle_error (map_eq_error.mp failed)
      exact sameBuilders_putChecks s name kept
    | each =>
      have kept := Checks.validate_error (map_eq_error.mp failed)
      exact sameBuilders_putChecks s name kept
    | all | any =>
      have kept := Checks.validate_error (map_eq_error.mp (map_eq_error.mp failed))
      exact sameBuilders_putChecks s name kept
  | query | addMembers | addUsers => exact SameBuilders.refl s
  | direct call => cases call <;> exact SameBuilders.refl s

end Session

/-! ## What comes of a call -/

/-- What the next request to the recorded engine comes to in place of an answer: it hangs until it
is cancelled, or it fails as scripted. -/
def fault? (s : Recorded) : Option Failure :=
  if s.hanging then some .cancelled
  else s.failNext.map fun (status, message) => .engine (.api status "scripted" message)

/-- The next request is answered where requests do not hang and no failure is scripted. -/
theorem fault?_eq_none {s : Recorded} :
    fault? s = none ↔ s.hanging = false ∧ s.failNext = none := by
  unfold fault?
  by_cases hangs : s.hanging = true <;> simp [hangs]

/-- What an answered request does to the recorded engine, beside being logged: only a write changes
what is stored. -/
def carriedOut (request : Request) (s : Recorded) : Recorded :=
  match request with
  | .write changes => { s with stored := Recorded.storedAfter changes s.stored }
  | _ => s

/-- Whether a call failed because it came in the wrong order. -/
def Failure.isSequence : Failure → Bool
  | .nobodyRemembered _ | .nothingPending => true
  | .engine _ | .cancelled => false

/-- What comes of a call that stands for a request, if any, over the recorded engine: its result,
and the engine after it. -/
inductive Settled {α : Type} (s : Recorded) (cancelled : Bool) (request? : Option Request) :
    Except Failure α → Recorded → Prop where
  | refused (e : Failure) (sequence : e.isSequence) (silent : request? = none) :
    Settled s cancelled request? (.error e) s
  | done (a : α) (silent : request? = none) : Settled s cancelled request? (.ok a) s
  | skipped (beforehand : cancelled = true) : Settled s cancelled request? (.error .cancelled) s
  | failed (request : Request) (e : Failure) (going : cancelled = false)
      (asked : request? = some request) (fault : fault? s = some e) :
    Settled s cancelled request? (.error e) (s.log request)
  | answered (request : Request) (a : α) (going : cancelled = false)
      (asked : request? = some request) (sound : fault? s = none) :
    Settled s cancelled request? (.ok a) (carriedOut request (s.log request))

namespace Settled

variable {α β : Type} {s s' : Recorded} {cancelled : Bool} {request? : Option Request}
  {result : Except Failure α}

theorem map (settled : Settled s cancelled request? result s') (f : α → β) :
    Settled s cancelled request? (result.map f) s' := by
  cases settled with
  | refused e sequence silent => exact .refused e sequence silent
  | done a silent => exact .done (f a) silent
  | skipped beforehand => exact .skipped beforehand
  | failed request e going asked fault => exact .failed request e going asked fault
  | answered request a going asked sound => exact .answered request (f a) going asked sound

/-- What is logged of a call: its request if it stands for one, unless it was cancelled beforehand.
-/
theorem requests_eq (settled : Settled s cancelled request? result s') :
    s'.requests = s.requests ++ if cancelled then [] else request?.toList := by
  cases settled with
  | refused _ _ silent | done _ silent => simp [silent]
  | skipped beforehand => simp [beforehand]
  | failed request _ going asked => simp [going, asked, Recorded.log]
  | answered request _ going asked =>
    cases request <;> simp [going, asked, carriedOut, Recorded.log]

end Settled

/-- A call to the recorded engine that logs its request, and when answered gives some value and
carries the request out. -/
def Serves {α : Type} (request : Request) (call : Recorded → Answer α × Recorded) : Prop :=
  ∃ value : Recorded → α, call = Recorded.respond request fun s => (value s, carriedOut request s)

/-- Every request to the recorded engine comes out in one of three ways: it is skipped, it meets the
fault of the state, or it is answered. -/
theorem settled_attempt {α : Type} {request : Request} {call : Recorded → Answer α × Recorded}
    (serves : Serves request call) (cancelled : Bool) (s : Recorded) :
    Settled s cancelled (some request) (attempt cancelled call s).1
      (attempt cancelled call s).2 := by
  obtain ⟨value, rfl⟩ := serves
  cases cancelled with
  | true => exact .skipped rfl
  | false =>
    simp only [attempt, Recorded.respond, Bool.false_eq_true, if_false]
    by_cases hangs : s.hanging = true
    · simp only [hangs, if_true]
      exact .failed request _ rfl rfl (by simp [fault?, hangs])
    · simp only [hangs, Bool.false_eq_true, if_false]
      cases scripted : s.failNext with
      | some failure => exact .failed request _ rfl rfl (by simp [fault?, hangs, scripted])
      | none => exact .answered request _ rfl rfl (by simp [fault?, hangs, scripted])

theorem serves_write (changes : Engine.WriteRequest) :
    Serves (.write changes) (recorded.write changes) :=
  ⟨fun _ => ⟨changes.writes, changes.deletes⟩, rfl⟩

theorem serves_check (item : CheckItem) : Serves (.check item) (recorded.check item) :=
  ⟨fun s => s.isAllowed item, rfl⟩

theorem serves_checkBatch (items : List CheckItem) :
    Serves (.checkBatch items) (recorded.checkBatch items) :=
  ⟨fun s => items.map s.isAllowed, rfl⟩

theorem serves_listObjects (user relation objectType : String) :
    Serves (.listObjects user relation objectType)
      (recorded.listObjects user relation objectType) :=
  ⟨fun s => s.allowedObjects user relation objectType, rfl⟩

theorem serves_listUsers (object relation userType : String) :
    Serves (.listUsers object relation userType) (recorded.listUsers object relation userType) :=
  ⟨fun s => s.allowedUsers object relation userType, rfl⟩

theorem serves_read (filter : Engine.ReadFilter) : Serves (.read filter) (recorded.read filter) :=
  ⟨fun s => s.stored.filter (Recorded.matchesFilter filter), rfl⟩

/-- A commit stands for a write, unless it is empty. Then it is refused on the spot. -/
theorem settled_commit (m : Mutation) (cancelled : Bool) (s : Recorded) :
    Settled s cancelled m.request? (m.commit recorded cancelled s).1.1
      (m.commit recorded cancelled s).2 := by
  unfold Mutation.commit Mutation.request?
  by_cases empty : m.isEmpty = true
  · simp only [empty, if_true]
    exact .refused _ rfl rfl
  · have settled := settled_attempt (serves_write m.request) cancelled s
    simp only [empty, Bool.false_eq_true, if_false]
    rcases tried : attempt cancelled (recorded.write m.request) s with ⟨_ | receipt, after⟩ <;>
      rw [tried] at settled <;> exact settled

theorem settled_validateSingle (c : Checks) (cancelled : Bool) (s : Recorded) :
    Settled s cancelled (c.request? .single) (c.validateSingle recorded cancelled s).1.1
      (c.validateSingle recorded cancelled s).2 := by
  unfold Checks.validateSingle Checks.request?
  cases c.pending with
  | nil => exact .done false rfl
  | cons first rest =>
    have settled := settled_attempt (serves_check first) cancelled s
    simp only
    rcases tried : attempt cancelled (recorded.check first) s with ⟨_ | allowed, after⟩ <;>
      rw [tried] at settled <;> exact settled

/-- The recorded engine gives as many verdicts as there are questions. -/
theorem length_checkBatch {items : List CheckItem} {cancelled : Bool} {s after : Recorded}
    {verdicts : List Bool}
    (ok : attempt cancelled (recorded.checkBatch items) s = (.ok verdicts, after)) :
    verdicts.length = items.length := by
  simp only [attempt, recorded, Recorded.respond] at ok
  split at ok
  · cases ok
  · split at ok
    · next answered =>
      split at answered
      · cases answered
      · split at answered
        · cases answered
        · cases answered
          cases ok
          exact List.length_map ..
    all_goals cases ok

/-- A validation of all questions stands for a batch, unless there are none. Then it succeeds on the
spot with no answer. -/
theorem settled_validate (c : Checks) (cancelled : Bool) (s : Recorded) :
    Settled s cancelled (c.request? .each) (c.validate recorded cancelled s).1.1
      (c.validate recorded cancelled s).2 := by
  unfold Checks.validate Checks.request? Checks.isEmpty
  by_cases empty : c.pending.isEmpty = true
  · simp only [empty, if_true]
    exact .done [] rfl
  · have settled := settled_attempt (serves_checkBatch c.pending) cancelled s
    simp only [empty, Bool.false_eq_true, if_false]
    rcases tried : attempt cancelled (recorded.checkBatch c.pending) s with ⟨e | verdicts, after⟩
    · rw [tried] at settled
      exact settled.map fun _ => []
    · rw [tried] at settled
      simp only [length_checkBatch tried, if_true]
      exact settled.map _

/-- A call that adds to a mutation fails only by coming in the wrong order. -/
theorem Mutation.isSequence_of_apply {m : Mutation} {call : Call} {e : Failure}
    (failed : m.apply call = .error e) : e.isSequence := by
  cases call <;> simp only [apply, addAlso, addAlsoConditional, assignAlso, continueWith] at failed
  case addAlso | addAlsoConditional | assignAlso =>
    split at failed <;> cases failed
    rfl
  all_goals cases failed

theorem Checks.isSequence_of_apply {c : Checks} {call : Call} {e : Failure}
    (failed : c.apply call = .error e) : e.isSequence := by
  cases call with
  | ask => cases failed
  | askAlso verb relation resource context =>
    simp only [apply, continueWith] at failed
    split at failed <;> cases failed
    rfl

namespace Session

variable {ε : Type}

/-- A query over the recorded engine settles its request. -/
theorem settled_runQuery {s : Session ε Recorded} (engines : s.current = recorded) (query : Query)
    (cancelled : Bool) :
    Settled s.state cancelled (some query.request) (s.runQuery query cancelled).1
      (s.runQuery query cancelled).2.state := by
  unfold runQuery
  rw [engines]
  cases query with
  | objects => exact (settled_attempt (serves_listObjects ..) cancelled s.state).map _
  | accessors | members => exact (settled_attempt (serves_listUsers ..) cancelled s.state).map _
  | allObjects | allAccessors =>
    exact ((settled_attempt (serves_read _) cancelled s.state).map _).map _

/-- So does a call to the recorded engine itself. -/
theorem settled_runDirect {s : Session ε Recorded} (engines : s.current = recorded) (call : Direct)
    (cancelled : Bool) :
    Settled s.state cancelled (some call.request) (s.runDirect call cancelled).1
      (s.runDirect call cancelled).2.state := by
  unfold runDirect
  rw [engines]
  cases call with
  | write => exact (settled_attempt (serves_write _) cancelled s.state).map _
  | check => exact (settled_attempt (serves_check _) cancelled s.state).map _
  | checkBatch => exact (settled_attempt (serves_checkBatch _) cancelled s.state).map _
  | listObjects => exact (settled_attempt (serves_listObjects ..) cancelled s.state).map _
  | listUsers => exact (settled_attempt (serves_listUsers ..) cancelled s.state).map _
  | read => exact (settled_attempt (serves_read _) cancelled s.state).map _

/-- So does a validation, where there is something to validate. -/
theorem settled_runValidation {s : Session ε Recorded}
    (engines : ∀ handle, s.engine handle = recorded) (name : String) (how : Validation)
    (cancelled : Bool) :
    Settled s.state cancelled ((s.checksOf name).2.request? how)
      (s.runValidation name how cancelled).1 (s.runValidation name how cancelled).2.state := by
  unfold runValidation
  simp only [engines]
  cases how with
  | single => exact (settled_validateSingle _ cancelled s.state).map _
  | each => exact (settled_validate _ cancelled s.state).map _
  | all | any => exact ((settled_validate _ cancelled s.state).map _).map _

/-- Every call of a session over the recorded engine settles the request that it stands for. -/
theorem settled_step {s : Session ε Recorded} (engines : ∀ handle, s.engine handle = recorded)
    (call : Step) :
    Settled s.state call.cancelled (s.request? call) (s.step call).1 (s.step call).2.state := by
  have current : s.current = recorded := engines _
  cases call with
  | newMutation | newChecks | withoutTransactions => exact .done _ rfl
  | mutate name call =>
    simp only [step]
    split
    · exact .done _ rfl
    · next failed => exact .refused _ (Mutation.isSequence_of_apply failed) rfl
  | ask name call =>
    simp only [step]
    split
    · exact .done _ rfl
    · next failed => exact .refused _ (Checks.isSequence_of_apply failed) rfl
  | commit name cancelled =>
    simp only [step, engines]
    exact (settled_commit _ cancelled s.state).map _
  | validate name how cancelled => exact settled_runValidation engines name how cancelled
  | query query cancelled => exact settled_runQuery current query cancelled
  | addMembers | addUsers =>
    simp only [step, current]
    exact (settled_commit _ _ s.state).map _
  | direct call cancelled => exact settled_runDirect current call cancelled

end Session

end Rebac.Access
