import Rebac.Access.Checks
import Rebac.Proofs.Http.Answer
import Rebac.Proofs.Http.Parts

/-!
# Checks fail closed

Whatever a server answers, with any status and any body, a question is answered yes only where the
server said so in as many words.
-/

namespace Rebac.Http

open Access (Checks CheckOutcome attempt)
open Json (Shape)

/-- A response to a check says that it is allowed: with success, and with a body that literally says
so, whatever document it is taken for. -/
structure Response.AllowsCheck (response : Response) : Prop where
  said : ∃ status body, response = .reply status body ∧ isSuccess status = true ∧
    (∃ doc, TakenFor checkShape body doc) ∧
    ∀ doc, TakenFor checkShape body doc → doc.given 0 "allowed" = [.bool true]

/-- A response to a batch says that the check under a correlation is allowed: with success, and with
a body that literally says so under that correlation, whatever document it is taken for. -/
structure Response.AllowsUnder (response : Response) (correlation : String) : Prop where
  said : ∃ status body, response = .reply status body ∧ isSuccess status = true ∧
    (∃ doc, TakenFor batchShape body doc) ∧
    ∀ doc, TakenFor batchShape body doc → graded? doc correlation = some true

/-- A check of a batch is allowed by the round that carries it. -/
structure AllowedIn (items : List CheckItem) (rounds : List Round) (index : Nat)
    (item : CheckItem) (round : Round) : Prop where
  pending : items[index]? = some item
  sent : rounds[index / 50]? = some round
  carries : (toString index, item) ∈ carried round.request
  answered : round.response.AllowsUnder (toString index)

/-- Every body that a shape can read is taken for some document. -/
theorem takenFor_of_read {α : Type} {shape : Shape} {read : Json → Option α} {body : String}
    {a : α} (h : decode? shape read body = some a) : ∃ doc, TakenFor shape body doc := by
  obtain ⟨view, read, -⟩ := Option.bind_eq_some_iff.1 h
  obtain ⟨doc, asked⟩ := Json.document_of_read? read
  exact ⟨doc, .inr (read.trans asked.symm)⟩

theorem allowsCheck_of_read {response : Response}
    (h : response.read? checkVerdict? = some true) : response.AllowsCheck := by
  obtain ⟨status, body, reply, success, verdict⟩ := Response.read?_eq_some.1 h
  refine ⟨status, body, reply, success, takenFor_of_read verdict, fun doc taken => ?_⟩
  exact allows_iff.1 (checkVerdict?_eq taken verdict)

theorem graded_of_verdictIn {doc : Json} {index : Nat} (h : verdictIn doc index = .ok true) :
    graded? doc (toString index) = some true := by
  simp only [verdictIn] at h
  split at h
  · cases h
  · next result found =>
    split at h
    · cases h
    · next fine =>
      have allowed := allows_iff.1 (Except.ok.inj h)
      simp only [graded?, found, Option.bind_eq_bind, Option.bind_some, allowed, fine]

theorem allowsUnder_of_read {response : Response} {found : List (String × BatchResult)}
    (h : response.read? batchResults? = some found) {index : Nat}
    (verdict : Client.batchVerdict found index = .ok true) :
    response.AllowsUnder (toString index) := by
  obtain ⟨status, body, reply, success, read⟩ := Response.read?_eq_some.1 h
  refine ⟨status, body, reply, success, takenFor_of_read read, fun doc taken => ?_⟩
  exact graded_of_verdictIn ((batchVerdict_eq taken read index).symm.trans verdict)

/-- A call of an engine gives a value only when the client's call does. -/
theorem attempt_answered_ok {α : Type} {cancelled : Bool}
    {call : Exchange → Except Engine.Error α × Exchange} {x x' : Exchange} {a : α}
    (h : attempt cancelled (Client.answered call) x = (.ok a, x')) : call x = (.ok a, x') := by
  cases cancelled with
  | true => cases h
  | false =>
    simp only [attempt, Client.answered, Bool.false_eq_true, if_false] at h
    generalize call x = out at h
    obtain ⟨result, after⟩ := out
    cases result with
    | error e => cases h
    | ok b =>
      cases h
      rfl

namespace Client

variable {c : Client} {target : String}

/-- A check that succeeds was one round. -/
theorem check_ok {item : CheckItem} {x x' : Exchange} {verdict : Bool}
    (h : c.check item x = (.ok verdict, x')) :
    ∃ round, x.rounds x' = [round] ∧ round.request.body = some (checkBody item c.modelId) ∧
      round.response.read? checkVerdict? = some verdict := by
  have post : c.postToStore "check" (checkBody item c.modelId) checkVerdict? x =
    (.ok verdict, x') := h
  obtain unsent | ⟨target, sendable, reachable⟩ := unsent_or_sent c "check" x
  · obtain ⟨e, failed⟩ := postToStore_unsent (checkBody item c.modelId) checkVerdict? unsent
    rw [failed] at post
    cases post
  · obtain ⟨took, answer⟩ :=
      postToStore_sent (checkBody item c.modelId) checkVerdict? sendable reachable
    rw [post] at took answer
    refine ⟨⟨c.posted target (checkBody item c.modelId), x.script.headD exhausted⟩, ?_, rfl,
      (answer verdict).1 rfl⟩
    rw [took.rounds_eq, Exchange.answers_singleton]

/-- Each verdict of a batch was read from the round that carries its check. -/
theorem Batched.verdict {offset : Nat} {items : List CheckItem}
    {parts : List (Nat × List CheckItem)} {rounds : List Round} {verdicts : List Bool}
    (run : Batched c target parts rounds (.ok verdicts))
    (cut : Consecutive maxBatchSize offset items parts) {i : Nat} {verdict : Bool}
    (given : verdicts[i]? = some verdict) :
    ∃ item round found, items[i]? = some item ∧ rounds[i / maxBatchSize]? = some round ∧
      (toString (offset + i), item) ∈ carried round.request ∧
      round.response.read? batchResults? = some found ∧
      batchVerdict found (offset + i) = .ok verdict := by
  generalize whole : Except.ok verdicts = result at run
  induction run generalizing offset items verdicts i with
  | done =>
    cases whole
    cases given
  | failed => cases whole
  | @passed _ part parts response found first rounds result read each later ih =>
    cases result with
    | error e => cases whole
    | ok rest =>
      cases whole
      obtain ⟨length, verdicts⟩ := partVerdicts_ok each
      cases cut with
      | @cons _ _ behind _ filled few full cut =>
        obtain here | there := Nat.lt_or_ge i first.length
        · rw [List.getElem?_append_left here] at given
          have inside : i < part.length := length ▸ here
          have item := List.getElem?_eq_getElem inside
          refine ⟨part[i], ⟨c.posted target (batchBody _ part c.modelId), response⟩, found,
            ?_, ?_, mem_carried_posted.2 ⟨i, part[i], item, rfl⟩, read, verdicts i verdict given⟩
          · rw [List.getElem?_append_left inside, item]
          · rw [Nat.div_eq_of_lt (Nat.lt_of_lt_of_le inside few)]
            rfl
        · rw [List.getElem?_append_right there] at given
          obtain ⟨item, round, found, pending, sent, carries, read, verdict⟩ := ih cut given rfl
          have long : part.length = maxBatchSize := full (List.ne_nil_of_mem
            (List.mem_of_getElem? pending))
          obtain ⟨j, rfl⟩ : ∃ j, i = maxBatchSize + j := ⟨i - maxBatchSize, by omega⟩
          rw [length, long, Nat.add_sub_cancel_left] at pending sent carries verdict
          refine ⟨item, round, found, ?_, ?_, ?_, read, ?_⟩
          · rw [List.getElem?_append_right (by omega), long, Nat.add_sub_cancel_left, pending]
          · rw [Nat.add_div_left _ (by decide), List.getElem?_cons_succ, sent]
          · rwa [← Nat.add_assoc]
          · rwa [← Nat.add_assoc]

/-- A check of a batch that succeeds is allowed only by the round that carries it. -/
theorem checkBatch_allowed {items : List CheckItem} {x x' : Exchange} {verdicts : List Bool}
    (h : c.checkBatch items x = (.ok verdicts, x')) {index : Nat}
    (given : verdicts[index]? = some true) :
    ∃ item round, AllowedIn items (x.rounds x') index item round := by
  have cut : Consecutive maxBatchSize 0 items (inParts maxBatchSize items) :=
    inParts_consecutive (by decide) items
  obtain unsent | ⟨target, sendable, reachable⟩ := unsent_or_sent c "batch-check" x
  · cases parts : inParts maxBatchSize items with
    | nil =>
      simp only [checkBatch, parts, checkParts] at h
      cases h
      cases given
    | cons p parts' =>
      obtain ⟨e, failed⟩ := checkParts_unsent unsent p parts'
      rw [checkBatch, parts, failed] at h
      cases h
  · have run := checkBatch_sent sendable items reachable
    rw [h] at run
    obtain ⟨item, round, found, pending, sent, carries, read, verdict⟩ := run.verdict cut given
    rw [Nat.zero_add] at carries verdict
    exact ⟨item, round, pending, sent, carries, allowsUnder_of_read read verdict⟩

theorem validate_complete {checks : Checks} {cancelled : Bool} {x : Exchange}
    {outcomes : List CheckOutcome}
    (h : (checks.validate c.engine cancelled x).1.1 = .ok outcomes) :
    outcomes.length = checks.pending.length := by
  unfold Checks.validate at h
  split at h
  · next empty =>
    cases h
    rw [List.isEmpty_iff.1 empty]
    rfl
  · split at h
    · split at h
      · next complete =>
        cases h
        rw [List.length_zipWith, complete, Nat.min_self]
      · cases h
    · cases h

/-- An outcome of a validation that says yes is of a check that is allowed. -/
theorem validate_allowed {checks : Checks} {cancelled : Bool} {x : Exchange}
    {outcomes : List CheckOutcome} {index : Nat} {outcome : CheckOutcome}
    (h : (checks.validate c.engine cancelled x).1.1 = .ok outcomes)
    (given : outcomes[index]? = some outcome) (allowed : outcome.allowed = true) :
    ∃ item round, outcome.tuple = item.tuple ∧
      AllowedIn checks.pending (x.rounds (checks.validate c.engine cancelled x).2) index item
        round := by
  cases empty : checks.pending.isEmpty with
  | true =>
    simp only [Checks.validate, empty, if_true] at h
    cases h
    cases given
  | false =>
    rcases called : attempt cancelled (c.engine.checkBatch checks.pending) x with
      ⟨e | verdicts, x'⟩
    · simp only [Checks.validate, empty, called, Bool.false_eq_true, if_false] at h
      cases h
    · simp only [Checks.validate, empty, called, Bool.false_eq_true, if_false] at h ⊢
      split at h
      · next complete =>
        cases h
        rw [if_pos complete]
        obtain ⟨item, verdict, pending, said, rfl⟩ := List.getElem?_zipWith_eq_some.1 given
        have granted : verdict = true := allowed
        subst granted
        obtain ⟨item', round, inside⟩ := checkBatch_allowed (attempt_answered_ok called) said
        cases pending.symm.trans inside.pending
        exact ⟨item, round, rfl, inside⟩
      · cases h

/-- Whatever a server answers, a check alone is allowed only by an answer to it that says so, a
check of a batch only by the answer to the request that carries it, under its own correlation, and a
whole batch only where each of its checks is. -/
theorem checks_fail_closed (c : Client) (checks : Checks) (cancelled : Bool) (x : Exchange) :
    (let out := checks.validateSingle c.engine cancelled x
     out.1.1 = .ok true →
        ∃ first later round, checks.pending = first :: later ∧ x.rounds out.2 = [round] ∧
          round.request.body = some (checkBody first c.modelId) ∧ round.response.AllowsCheck) ∧
    (let out := checks.validate c.engine cancelled x
     ∀ outcomes index outcome, out.1.1 = .ok outcomes → outcomes[index]? = some outcome →
        outcome.allowed = true →
        ∃ item round, outcome.tuple = item.tuple ∧
          AllowedIn checks.pending (x.rounds out.2) index item round) ∧
    (let out := checks.validateAll c.engine cancelled x
     out.1.1 = .ok true → ∀ index, index < checks.pending.length →
        ∃ item round, AllowedIn checks.pending (x.rounds out.2) index item round) := by
  refine ⟨fun granted => ?_, fun outcomes index outcome ok given allowed => ?_,
    fun granted index inside => ?_⟩
  · cases pending : checks.pending with
    | nil =>
      simp only [Checks.validateSingle, pending] at granted
      cases granted
    | cons first later =>
      rcases called : attempt cancelled (c.engine.check first) x with ⟨e | verdict, x'⟩
      · simp only [Checks.validateSingle, pending, called] at granted
        cases granted
      · simp only [Checks.validateSingle, pending, called] at granted ⊢
        cases granted
        obtain ⟨round, sent, body, read⟩ := check_ok (attempt_answered_ok called)
        exact ⟨first, later, round, rfl, sent, body, allowsCheck_of_read read⟩
  · exact validate_allowed ok given allowed
  · cases answered : (checks.validate c.engine cancelled x).1.1 with
    | error e =>
      simp only [Checks.validateAll, answered] at granted
      cases granted
    | ok outcomes =>
      simp only [Checks.validateAll, answered] at granted
      have each := List.all_eq_true.1 (Except.ok.inj granted)
      have given := List.getElem?_eq_getElem (validate_complete answered ▸ inside)
      obtain ⟨item, round, -, allowed⟩ :=
        validate_allowed answered given (each _ (List.mem_of_getElem? given))
      exact ⟨item, round, allowed⟩

/-- An array is a record, whose first item is the value of `allowed`, though it names no member. -/
theorem validateSingle_allowed_by_place :
    let checks : Checks := { pending := [readerCheck "user:anne"] }
    (checks.validateSingle localClient.engine false (answering "[true]")).1.1 = .ok true ∧
      ∃ doc, Json.readAsWritten? "[true]" = some doc ∧ doc.get? "allowed" = none := by
  refine ⟨toOption_eq_some (by decide +kernel), ?_⟩
  have unnamed : (Json.readAsWritten? "[true]").any (·.get? "allowed" |>.isNone) = true := by
    decide +kernel
  obtain ⟨doc, read, absent⟩ := (Option.any_eq_true _ _).1 unnamed
  exact ⟨doc, read, Option.isNone_iff_eq_none.1 absent⟩

end Client

end Rebac.Http
