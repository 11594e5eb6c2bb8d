import Rebac.Proofs.Access.Mutation
import Rebac.Proofs.Http.Writes

/-!
# Commits tried again

How often the server accepts each change of a mutation when a commit over it fails and is tried
again until it succeeds. A transactional commit makes each change once. Any other sends each change
on its own and keeps all of them when one fails, so that the next commit makes the changes before
that one again.
-/

namespace Rebac.Http

open Access (Mutation)
open Engine (Change WriteRequest)

namespace Client

/-- What a commit comes to: whether it went well, and its rounds. -/
structure Attempt where
  isOk : Bool
  rounds : List Round

/-- How many requests of an attempt the server accepted. -/
def Attempt.accepted (a : Attempt) : Nat := Http.accepted a.rounds

/-- Commits one after the other, some of them perhaps cancelled beforehand. Each is of what the
mutation has pending after the one before. -/
def attempts (c : Client) : Mutation → List Bool → Exchange → List Attempt
  | _, [], _ => []
  | m, cancelled :: rest, x =>
    let ((result, m'), x') := m.commit c.engine cancelled x
    ⟨result.toOption.isSome, x.rounds x'⟩ :: c.attempts m' rest x'

/-! ## One attempt -/

open Classical in
/-- An attempt at a request had its first parts accepted, all of them if it went well, and made the
changes of these parts. -/
structure Attempt.Tries (a : Attempt) (request : WriteRequest) : Prop where
  accepted_eq : if a.isOk then a.accepted = (parts request).length
    else a.accepted < (parts request).length
  timesMade_eq : ∀ change, timesMade change a.rounds =
    ((parts request).take a.accepted).countP fun p => change.IsIn p

variable {c : Client} {m : Mutation}

theorem parts_ne_nil {request : WriteRequest} (pending : request.isEmpty = false) :
    parts request ≠ [] := by
  obtain ⟨writes, deletes, transactional⟩ := request
  cases transactional <;> cases writes <;> cases deletes <;>
    simp_all [parts, WriteRequest.isEmpty]

theorem isEmpty_of_mem_changes {change : Change} (member : change ∈ m.request.changes) :
    m.isEmpty = false := by
  obtain ⟨writes, deletes, accessor, transactional⟩ := m
  cases writes <;> cases deletes <;>
    simp_all [Mutation.isEmpty, Mutation.request, WriteRequest.changes]

theorem condition_of_mem_parts (unconditional : m.Unconditional) {p : List Tuple × List Tuple}
    (member : p ∈ parts m.request) {t : Tuple} (deleted : t ∈ p.2) : t.condition = none := by
  refine unconditional t ?_
  unfold parts at member
  split at member
  · rw [List.mem_singleton.mp member] at deleted
    exact deleted
  · rcases List.mem_append.mp member with written | single
    · obtain ⟨_, -, rfl⟩ := List.mem_map.mp written
      cases deleted
    · obtain ⟨d, pending, rfl⟩ := List.mem_map.mp single
      rw [List.mem_singleton.mp deleted]
      exact pending

/-- An attempt that sends nothing makes nothing. -/
theorem Attempt.tries_nothing {request : WriteRequest} (pending : request.isEmpty = false) :
    Tries ⟨false, []⟩ request where
  accepted_eq := List.length_pos_iff.mpr (parts_ne_nil pending)
  timesMade_eq _ := rfl

theorem Sent.tries {target : String} {rounds : List Round} {ok : Bool}
    (unconditional : m.Unconditional) (run : Sent c target (parts m.request) rounds ok) :
    Attempt.Tries ⟨ok, rounds⟩ m.request where
  accepted_eq := run.accepted_eq
  timesMade_eq := run.timesMade_eq fun _ member _ => condition_of_mem_parts unconditional member

/-- A commit tries what is pending, and keeps it unless it goes well. -/
theorem commit_tries (pending : m.isEmpty = false) (unconditional : m.Unconditional)
    (cancelled : Bool) {x : Exchange} (plain : x.AnswersJson) :
    let out := m.commit c.engine cancelled x
    Attempt.Tries ⟨out.1.1.toOption.isSome, x.rounds out.2⟩ m.request ∧ out.2.AnswersJson ∧
      (out.1.1.toOption.isSome = false → out.1.2 = m) := by
  have unsent : x.rounds x = [] := (Exchange.Took.refl x).rounds_eq
  have nothing : Attempt.Tries ⟨false, x.rounds x⟩ m.request :=
    unsent ▸ Attempt.tries_nothing pending
  simp only [Mutation.commit, pending, Bool.false_eq_true, if_false]
  cases cancelled with
  | true => exact ⟨nothing, plain, fun _ => rfl⟩
  | false =>
    simp only [Access.attempt, engine, answered, write, Bool.false_eq_true, if_false]
    obtain stuck | ⟨target, sendable, reachable⟩ := unsent_or_sent c "write" x
    · obtain ⟨p, later, same⟩ :=
        List.exists_cons_of_ne_nil (parts_ne_nil (show m.request.isEmpty = false from pending))
      obtain ⟨e, failed⟩ := postWrites_unsent stuck p later
      simp only [same, failed]
      exact ⟨nothing, plain, fun _ => rfl⟩
    · obtain ⟨requests, took, run⟩ :=
        postWrites_sent sendable (parts m.request) reachable plain
      generalize c.postWrites (parts m.request) x = out at took run
      obtain ⟨result, x'⟩ := out
      rw [← took.rounds_eq] at run
      have tries := run.tries unconditional
      cases result with
      | error e => exact ⟨tries, took.answersJson plain, fun _ => rfl⟩
      | ok => exact ⟨tries, took.answersJson plain, fun failed => Bool.noConfusion failed⟩

/-! ## Attempts up to the first that goes well -/

theorem attempts_try (pending : m.isEmpty = false) (unconditional : m.Unconditional)
    {cancelled : List Bool} {x : Exchange} (plain : x.AnswersJson) {failed : List Attempt}
    {last : Attempt} (all : c.attempts m cancelled x = failed ++ [last])
    (failing : ∀ a ∈ failed, a.isOk = false) :
    ∀ a ∈ failed ++ [last], a.Tries m.request := by
  induction cancelled generalizing x failed with
  | nil => simp [attempts] at all
  | cons first cancelled ih =>
    obtain ⟨tries, plain', kept⟩ := commit_tries (c := c) pending unconditional first plain
    simp only [attempts] at all
    cases failed with
    | nil =>
      obtain ⟨rfl, -⟩ := List.cons.inj all
      simpa using tries
    | cons a failed =>
      obtain ⟨rfl, rest⟩ := List.cons.inj all
      rw [kept (failing _ (List.mem_cons_self ..))] at rest
      have later := ih plain' rest fun a member => failing a (List.mem_cons_of_mem _ member)
      intro a member
      rcases List.mem_cons.mp member with rfl | member
      · exact tries
      · exact later a member

open Classical in
/-- A change is in one part only, the one at `index`. -/
structure Alone (change : Change) (parts : List (List Tuple × List Tuple)) (index : Nat) :
    Prop where
  inside : index < parts.length
  countP_take : ∀ k, (parts.take k).countP (fun p => change.IsIn p) = if index < k then 1 else 0

variable {request : WriteRequest} {change : Change} {index : Nat}

theorem Attempt.Tries.timesMade_alone {a : Attempt} (tries : a.Tries request)
    (alone : Alone change (parts request) index) :
    timesMade change a.rounds = if index < a.accepted then 1 else 0 :=
  (tries.timesMade_eq change).trans (alone.countP_take a.accepted)

theorem Attempt.Tries.timesMade_ok {a : Attempt} (tries : a.Tries request) (ok : a.isOk = true)
    (alone : Alone change (parts request) index) : timesMade change a.rounds = 1 := by
  have all := tries.accepted_eq
  rw [ok, if_pos rfl] at all
  rw [tries.timesMade_alone alone, all, if_pos alone.inside]

/-- Over several attempts a change is made in those that had its part accepted. -/
theorem timesMade_flatMap {tried : List Attempt} (tries : ∀ a ∈ tried, a.Tries request)
    (alone : Alone change (parts request) index) :
    timesMade change (tried.flatMap (·.rounds)) = tried.countP fun a => index < a.accepted := by
  induction tried with
  | nil => rfl
  | cons a tried ih =>
    have later := ih fun b member => tries b (List.mem_cons_of_mem _ member)
    have first := (tries a (List.mem_cons_self ..)).timesMade_alone alone
    rw [List.flatMap_cons, timesMade_append, first, later, List.countP_cons, Nat.add_comm]
    simp only [decide_eq_true_eq]

/-! ## The part of a change -/

/-- A transaction has one part, with every change. -/
theorem alone_of_transactional (transactional : request.transactional = true)
    (member : change ∈ request.changes) : Alone change (parts request) 0 := by
  have whole : parts request = [(request.writes, request.deletes)] := by
    simp only [parts, transactional, if_true]
  have isIn := Engine.WriteRequest.mem_changes.mp member
  refine ⟨by simp [whole], fun k => ?_⟩
  cases k <;> simp [whole, isIn]

/-- Without transactions each change has a part of its own. -/
theorem alone_of_relaxed (relaxed : request.transactional = false)
    (distinct : request.changes.Nodup) {place : Nat}
    (here : request.changes[place]? = some change) : Alone change (parts request) place := by
  have each := Engine.parts_eq_changes relaxed
  obtain ⟨inside, at_place⟩ := List.getElem?_eq_some_iff.mp here
  refine ⟨by rwa [each, List.length_map], fun k => ?_⟩
  classical
  have member : change ∈ request.changes.take k ↔ place < k := by
    rw [List.mem_take_iff_getElem]
    constructor
    · rintro ⟨i, less, same⟩
      have short : i < request.changes.length := by omega
      have there : request.changes[i]? = request.changes[place]? :=
        (List.getElem?_eq_some_iff.mpr ⟨short, same⟩).trans here.symm
      have index : i = place := (List.getElem?_inj short distinct).mp there
      omega
    · intro less
      exact ⟨place, by omega, at_place⟩
  have counted : (request.changes.take k).count change = if place < k then 1 else 0 := by
    rw [(distinct.sublist (List.take_sublist ..)).count]
    simp only [member]
  rw [each, ← List.map_take, List.countP_map, ← counted, List.count]
  refine List.countP_congr fun other _ => ?_
  simp only [Function.comp_apply, Engine.Change.isIn_part, decide_eq_true_eq, beq_iff_eq]
  exact eq_comm

/-! ## All attempts -/

/-- Up to the first attempt that goes well a change is made in that one, and in each failed one that
had the part of the change accepted. -/
theorem timesMade_attempts {failed : List Attempt} {last : Attempt}
    (tries : ∀ a ∈ failed ++ [last], a.Tries request) (ok : last.isOk = true)
    (alone : Alone change (parts request) index) :
    timesMade change ((failed ++ [last]).flatMap (·.rounds)) =
      1 + failed.countP fun a => index < a.accepted := by
  have before := fun a member => tries a (List.mem_append_left [last] member)
  have once := (tries last (by simp)).timesMade_ok ok alone
  rw [List.flatMap_append, timesMade_append, timesMade_flatMap before alone,
    List.flatMap_singleton, once, Nat.add_comm]

theorem run_unconditional {σ : Type} (engine : Engine σ) (transactional : Bool)
    (acts : List Mutation.Act) (s : σ) :
    (Access.run (Mutation.take engine.observed) { transactional } s acts).builder.Unconditional :=
  (Access.run_invariant (p := fun m : Mutation => m.Remembers ∧ m.Unconditional)
    (fun _ act s h =>
      have step := Mutation.step_take engine h.1 act s
      ⟨step.remembers h.1, step.unconditional h.2⟩)
    { transactional } s acts ⟨rfl, by simp [Mutation.Unconditional]⟩).2

/-- Whatever was done with a mutation before, let commits of it fail and be tried again until one
goes well, while every success comes with a document. A transactional mutation then has each of its
changes accepted exactly once. Any other has each change accepted in the last attempt, and again in
each failed attempt that had more requests accepted than there are changes before it. -/
theorem retried_commit_makes_changes {σ : Type} (engine : Engine σ) (c : Client)
    (transactional : Bool) (acts : List Mutation.Act) (s : σ) (cancelled : List Bool)
    (x : Exchange) (failed : List Attempt) (last : Attempt) (change : Change) (place : Nat) :
    let m := (Access.run (Mutation.take engine.observed) { transactional } s acts).builder
    let made := timesMade change ((failed ++ [last]).flatMap (·.rounds))
    m.writes.Nodup → m.deletes.Nodup → x.AnswersJson →
    c.attempts m cancelled x = failed ++ [last] → (∀ a ∈ failed, a.isOk = false) →
    last.isOk = true → m.request.changes[place]? = some change →
      (m.transactional = true → made = 1) ∧
      (m.transactional = false →
        timesMade change last.rounds = 1 ∧
        (∀ a ∈ failed, timesMade change a.rounds = if place < a.accepted then 1 else 0) ∧
        made = 1 + failed.countP fun a => place < a.accepted) := by
  intro m made writes deletes plain all failing ok here
  have member : change ∈ m.request.changes := List.mem_of_getElem? here
  have pending : m.isEmpty = false := isEmpty_of_mem_changes member
  have tries := attempts_try pending (run_unconditional engine transactional acts s) plain all
    failing
  refine ⟨fun (transactional : m.request.transactional = true) => ?_,
    fun (relaxed : m.request.transactional = false) => ?_⟩
  · have alone := alone_of_transactional transactional member
    have one : (parts m.request).length = 1 := by simp [parts, transactional]
    -- A transaction has one part, so an attempt that fails had none accepted.
    have none_accepted : failed.countP (fun a => 0 < a.accepted) = 0 := by
      refine List.countP_eq_zero.mpr fun a inside => ?_
      have count := (tries a (List.mem_append_left [last] inside)).accepted_eq
      rw [failing a inside, if_neg Bool.false_ne_true, one] at count
      simpa using Nat.lt_one_iff.mp count
    rw [show made = _ from timesMade_attempts tries ok alone, none_accepted]
  · have alone := alone_of_relaxed relaxed
      (Engine.WriteRequest.nodup_changes writes deletes) here
    exact ⟨(tries last (by simp)).timesMade_ok ok alone,
      fun a inside => (tries a (List.mem_append_left [last] inside)).timesMade_alone alone,
      timesMade_attempts tries ok alone⟩

/-! ## A relaxed commit that fails half way -/

/-- Two grants, each to be sent on its own. -/
def twoGrants : List Mutation.Act :=
  [.withoutTransactions, .call (.add ⟨"user", "alice"⟩ "editor" ⟨"form", "1"⟩),
    .call (.add ⟨"user", "anne"⟩ "editor" ⟨"form", "1"⟩)]

/-- A server that refuses the second request. -/
def refusingSecond : Exchange where
  script := [.reply 200 "\x7b\x7d", .reply 500 "", .reply 200 "\x7b\x7d", .reply 200 "\x7b\x7d"]

/-- The mutation after the two grants. -/
def grantingTwo : Mutation :=
  (Access.run (Mutation.take localClient.engine.observed) { transactional := true } {}
    twoGrants).builder

theorem grantingTwo_eq : grantingTwo =
    { writes := [⟨"user:alice", "editor", "form:1", none⟩, ⟨"user:anne", "editor", "form:1", none⟩]
      accessor := some "user:anne"
      transactional := false } := rfl

theorem grantingTwo_nodup : grantingTwo.writes.Nodup ∧ grantingTwo.deletes.Nodup := by
  simp [grantingTwo_eq]

theorem refusingSecond_answersJson : refusingSecond.AnswersJson := by
  intro status body member success
  simp only [refusingSecond, List.mem_cons, Response.reply.injEq, List.not_mem_nil, or_false]
    at member
  obtain ⟨rfl, rfl⟩ | ⟨rfl, rfl⟩ | ⟨rfl, rfl⟩ | ⟨rfl, rfl⟩ := member
  · decide +kernel
  · cases success
  · decide +kernel
  · decide +kernel

/-- The first attempt has one request accepted and fails, and the second has both accepted. -/
theorem attempts_grantingTwo : ∃ first second,
    localClient.attempts grantingTwo [false, false] refusingSecond = [first, second] ∧
      first.isOk = false ∧ first.accepted = 1 ∧ second.isOk = true := by
  have run : (localClient.attempts grantingTwo [false, false] refusingSecond).map
      (fun a => (a.isOk, a.accepted)) = [(false, 1), (true, 2)] := by decide +kernel
  obtain ⟨first, _, all, failed, rest⟩ := List.map_eq_cons_iff.mp run
  obtain ⟨second, _, rfl, ok, none⟩ := List.map_eq_cons_iff.mp rest
  rw [List.map_eq_nil_iff.mp none] at all
  exact ⟨first, second, all, congrArg Prod.fst failed, congrArg Prod.snd failed,
    congrArg Prod.fst ok⟩

/-- Of the two grants the first is made twice and the second once. -/
theorem retried_commit_makes_changes_two :
    grantingTwo.writes.Nodup ∧ grantingTwo.deletes.Nodup ∧ refusingSecond.AnswersJson ∧
    ∃ failed last,
      localClient.attempts grantingTwo [false, false] refusingSecond = failed ++ [last] ∧
      (∀ a ∈ failed, a.isOk = false) ∧ last.isOk = true ∧
      ∀ place change, grantingTwo.request.changes[place]? = some change →
        timesMade change last.rounds = 1 ∧
        timesMade change ((failed ++ [last]).flatMap (·.rounds)) = if place = 0 then 2 else 1 := by
  obtain ⟨first, second, all, refused, accepted, ok⟩ := attempts_grantingTwo
  have failing : ∀ a ∈ [first], a.isOk = false := by simpa using refused
  refine ⟨grantingTwo_nodup.1, grantingTwo_nodup.2, refusingSecond_answersJson, [first], second,
    all, failing, ok, fun place change here => ?_⟩
  obtain ⟨once, -, made⟩ := (retried_commit_makes_changes localClient.engine localClient true
    twoGrants {} [false, false] refusingSecond [first] second change place grantingTwo_nodup.1
    grantingTwo_nodup.2 refusingSecond_answersJson all failing ok here).2 rfl
  refine ⟨once, made.trans ?_⟩
  cases place <;> simp [accepted]

/-- A relaxed commit that fails at the second of two grants and is tried again has the first grant
accepted twice. -/
theorem relaxed_retry_repeats_grant :
    ¬ ∀ failed last change,
      localClient.attempts grantingTwo [false, false] refusingSecond = failed ++ [last] →
      (∀ a ∈ failed, a.isOk = false) → last.isOk = true → change ∈ grantingTwo.request.changes →
        timesMade change ((failed ++ [last]).flatMap (·.rounds)) = 1 := by
  intro once
  obtain ⟨first, second, all, refused, accepted, ok⟩ := attempts_grantingTwo
  have failing : ∀ a ∈ [first], a.isOk = false := by simpa using refused
  have relaxed : grantingTwo.request.transactional = false := rfl
  have here : grantingTwo.request.changes[0]? =
      some (.write ⟨"user:alice", "editor", "form:1", none⟩) := rfl
  have alone := alone_of_relaxed relaxed
    (Engine.WriteRequest.nodup_changes grantingTwo_nodup.1 grantingTwo_nodup.2) here
  have tries : ∀ a ∈ [first] ++ [second], a.Tries grantingTwo.request :=
    attempts_try rfl (by simp [Mutation.Unconditional, grantingTwo_eq]) refusingSecond_answersJson
      all failing
  have twice := timesMade_attempts tries ok alone
  rw [once [first] second _ all failing ok (List.mem_of_getElem? here)] at twice
  simp [accepted] at twice

end Client

end Rebac.Http
