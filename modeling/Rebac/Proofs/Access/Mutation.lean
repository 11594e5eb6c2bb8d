import Rebac.Proofs.Access.Observation

/-!
# Runs of a mutation

What a mutation does over any engine, act by act: which tuples a call adds, and what a commit sends
and keeps. The main statement is that no commit loses, repeats or reorders a change, whatever the
engine answers.
-/

namespace Rebac.Access

open Engine (Observed WriteRequest)
open Naming (Entity)
open Condition (Attached)

/-- The user of the last of some tuples. -/
def lastUser? (tuples : List Tuple) : Option String := tuples.getLast?.map (·.user)

namespace Mutation

/-- One use of a mutation: a call that adds to it, a commit, perhaps cancelled beforehand, or the
choice to send each tuple on its own. -/
inductive Act where
  | call (call : Call)
  | commit (cancelled : Bool)
  | withoutTransactions
deriving Repr

variable {σ : Type}

/-- Uses a mutation. A call that fails leaves it as it is. -/
def take (engine : Engine σ) (m : Mutation) : Act → σ → (Except Failure Result × Mutation) × σ
  | .call call, s =>
    match m.apply call with
    | .ok after => ((.ok .done, after), s)
    | .error e => ((.error e, m), s)
  | .commit cancelled, s =>
    let ((result, after), s) := m.commit engine cancelled s
    ((result.map .receipt, after), s)
  | .withoutTransactions, s => ((.ok .done, m.withoutTransactions), s)

/-! ## Calls -/

namespace Call

/-- What a continuation asks for: the relation, the resource and the condition of its tuple. -/
structure Continued where
  call : Continuation
  relation : String
  resource : Entity
  condition : Option Attached

/-- What a call asks for, if it is a continuation. -/
def continued? : Call → Option Continued
  | .addAlso relation resource => some ⟨.addAlso, relation, resource, none⟩
  | .addAlsoConditional relation resource condition =>
    some ⟨.addAlsoConditional, relation, resource, some condition⟩
  | .assignAlso relation target => some ⟨.assignAlso, relation, target, none⟩
  | _ => none

/-- The tuples that a call writes where the last write so far is of `user?`. Without such a user a
continuation writes nothing. -/
def writes (user? : Option String) : Call → List Tuple
  | .add accessor relation resource | .assign accessor relation resource =>
    [⟨accessor.reference, relation, resource.reference, none⟩]
  | .addConditional accessor relation resource condition
  | .assignConditional accessor relation resource condition =>
    [⟨accessor.reference, relation, resource.reference, some condition⟩]
  | .addAlso relation resource | .assignAlso relation resource =>
    user?.toList.map fun user => ⟨user, relation, resource.reference, none⟩
  | .addAlsoConditional relation resource condition =>
    user?.toList.map fun user => ⟨user, relation, resource.reference, some condition⟩
  | .addMany accessorType ids relation resource =>
    ids.map fun id => ⟨Naming.qualify accessorType id, relation, resource.reference, none⟩
  | .revoke .. | .revokeMany .. => []

/-- The tuples that a call deletes. -/
def deletes : Call → List Tuple
  | .revoke accessor relation resource =>
    [⟨accessor.reference, relation, resource.reference, none⟩]
  | .revokeMany accessorType ids relation resource =>
    ids.map fun id => ⟨Naming.qualify accessorType id, relation, resource.reference, none⟩
  | _ => []

theorem condition_of_mem_deletes {c : Call} {t : Tuple} (h : t ∈ c.deletes) :
    t.condition = none := by
  cases c <;> simp only [deletes, List.mem_singleton, List.mem_map, List.not_mem_nil] at h
  case revoke => rw [h]
  case revokeMany =>
    obtain ⟨_, _, rfl⟩ := h
    rfl

end Call

/-- The remembered accessor is the user of the last pending write. -/
def Remembers (m : Mutation) : Prop := m.accessor = lastUser? m.writes

/-- The mutation with more writes and deletes. -/
def extended (m : Mutation) (writes deletes : List Tuple) : Mutation :=
  { m with
    writes := m.writes ++ writes
    deletes := m.deletes ++ deletes
    accessor := lastUser? (m.writes ++ writes) }

theorem remembers_extended (m : Mutation) (writes deletes : List Tuple) :
    (m.extended writes deletes).Remembers := rfl

theorem pushWrite_eq (m : Mutation) (user relation : String) (resource : Entity)
    (condition : Option Attached) :
    m.pushWrite user relation resource condition =
      m.extended [⟨user, relation, resource.reference, condition⟩] [] := by
  simp [pushWrite, extended, lastUser?]

theorem pushDelete_eq {m : Mutation} (h : m.Remembers) (user relation : String)
    (resource : Entity) :
    m.pushDelete user relation resource =
      m.extended [] [⟨user, relation, resource.reference, none⟩] := by
  simp [pushDelete, extended, h.symm]

theorem extended_extended (m : Mutation) (w d w' d' : List Tuple) :
    (m.extended w d).extended w' d' = m.extended (w ++ w') (d ++ d') := by
  simp [extended]

theorem extended_nil {m : Mutation} (h : m.Remembers) : m.extended [] [] = m := by
  simp [extended, h.symm]

/-- Adding many is one push for each of them, in their order. The last one is remembered. -/
theorem addMany_eq {m : Mutation} (h : m.Remembers) (accessorType : String) (ids : List String)
    (relation : String) (resource : Entity) :
    m.addMany accessorType ids relation resource = m.extended
      (ids.map fun id => ⟨Naming.qualify accessorType id, relation, resource.reference, none⟩)
      [] := by
  induction ids generalizing m with
  | nil => exact (extended_nil h).symm
  | cons id ids ih =>
    simp only [addMany, List.foldl_cons, List.map_cons] at ih ⊢
    rw [add, pushWrite_eq, ih (remembers_extended ..), extended_extended]
    rfl

theorem revokeMany_eq {m : Mutation} (h : m.Remembers) (accessorType : String)
    (ids : List String) (relation : String) (resource : Entity) :
    m.revokeMany accessorType ids relation resource = m.extended []
      (ids.map fun id =>
        ⟨Naming.qualify accessorType id, relation, resource.reference, none⟩) := by
  induction ids generalizing m with
  | nil => exact (extended_nil h).symm
  | cons id ids ih =>
    simp only [revokeMany, List.foldl_cons, List.map_cons] at ih ⊢
    rw [revoke, pushDelete_eq h, ih (remembers_extended ..), extended_extended]
    rfl

/-- A continuation goes on with the user of the last pending write, and fails when there is none. -/
theorem continueWith_eq {m : Mutation} (h : m.Remembers) (call : Continuation)
    (relation : String) (resource : Entity) (condition : Option Attached) :
    m.continueWith call relation resource condition =
      match lastUser? m.writes with
      | some user => .ok (m.extended [⟨user, relation, resource.reference, condition⟩] [])
      | none => .error (.nobodyRemembered call) := by
  have accessor : m.accessor = lastUser? m.writes := h
  rw [continueWith, accessor]
  cases lastUser? m.writes with
  | none => rfl
  | some user => exact congrArg Except.ok (pushWrite_eq ..)

/-- A call appends its writes and deletes. Only a continuation can fail, when nothing is written
yet. -/
theorem apply_eq {m : Mutation} (h : m.Remembers) (c : Call) :
    m.apply c =
      match c.continued?, lastUser? m.writes with
      | some k, none => .error (.nobodyRemembered k.call)
      | _, user? => .ok (m.extended (c.writes user?) c.deletes) := by
  cases c with
  | add | assign | addConditional | assignConditional =>
    simp only [apply, add, assign, addConditional, assignConditional, pushWrite_eq]
    rfl
  | addAlso | addAlsoConditional | assignAlso =>
    simp only [apply, addAlso, addAlsoConditional, assignAlso, continueWith_eq h]
    cases lastUser? m.writes <;> rfl
  | addMany => simp only [apply, addMany_eq h]; rfl
  | revoke => simp only [apply, revoke, pushDelete_eq h]; rfl
  | revokeMany => simp only [apply, revokeMany_eq h]; rfl

/-! ## Commits -/

/-- A commit sends what is pending and forgets it, or it fails and changes nothing. -/
theorem commit_cases (m : Mutation) (engine : Engine σ) (cancelled : Bool) (s : σ) :
    (∃ receipt after, (m.isEmpty || cancelled) = false ∧
      m.commit engine cancelled s = ((.ok receipt, m.reset), after)) ∨
    ∃ e after, m.commit engine cancelled s = ((.error e, m), after) := by
  unfold commit
  cases empty : m.isEmpty with
  | true => exact .inr ⟨.nothingPending, s, rfl⟩
  | false =>
    rcases sent : attempt cancelled (engine.write m.request) s with ⟨_ | receipt, after⟩
    · exact .inr ⟨_, after, rfl⟩
    · cases cancelled with
      | true => simp [attempt] at sent
      | false => exact .inl ⟨receipt, after, rfl, rfl⟩

/-- A commit that is neither empty nor cancelled beforehand sends exactly what is pending. -/
theorem commit_observed (m : Mutation) (engine : Engine σ) (cancelled : Bool) (s : Observed σ) :
    m.commit engine.observed cancelled s =
      ((m.commit engine cancelled s.inner).1,
        ⟨(m.commit engine cancelled s.inner).2,
          s.requests ++ if m.isEmpty || cancelled then [] else [.write m.request]⟩) := by
  simp only [commit, Engine.observed, attempt_observe]
  cases m.isEmpty with
  | true => simp
  | false =>
    simp only [Bool.false_or, Bool.false_eq_true, if_false]
    rcases attempt cancelled (engine.write m.request) s.inner with ⟨_ | _, after⟩ <;> rfl

/-! ## Steps -/

/-- What an act can do: its result, the requests it sends, and the mutation after it. -/
inductive Step (m : Mutation) :
    Act → Except Failure Result → List Engine.Request → Mutation → Prop where
  | added (c : Call) (named : c.continued?.isSome → (lastUser? m.writes).isSome) :
    Step m (.call c) (.ok .done) [] (m.extended (c.writes (lastUser? m.writes)) c.deletes)
  | refused (c : Call) (k : Call.Continued) (asked : c.continued? = some k)
      (unnamed : lastUser? m.writes = none) :
    Step m (.call c) (.error (.nobodyRemembered k.call)) [] m
  | delivered (receipt : Engine.WriteReceipt) (pending : m.isEmpty = false) :
    Step m (.commit false) (.ok (.receipt receipt)) [.write m.request] m.reset
  | kept (cancelled : Bool) (e : Failure) :
    Step m (.commit cancelled) (.error e)
      (if m.isEmpty || cancelled then [] else [.write m.request]) m
  | loosened : Step m .withoutTransactions (.ok .done) [] m.withoutTransactions

variable {m m' : Mutation} {act : Act} {result : Except Failure Result}
  {sent : List Engine.Request}

/-- What a call does to a mutation is one of the steps. -/
theorem step_take (engine : Engine σ) (h : m.Remembers) (act : Act) (s : σ) :
    Step m act (event (take engine.observed) m act s).result
      (event (take engine.observed) m act s).sent (after (take engine.observed) m act s) := by
  cases act with
  | call c =>
    simp only [event, after, take, apply_eq h]
    cases asked : c.continued? with
    | none => exact .added c (by simp [asked])
    | some k =>
      cases named : lastUser? m.writes with
      | none => exact .refused c k asked named
      | some user =>
        have added := Step.added (m := m) c (fun _ => named ▸ rfl)
        rwa [named] at added
  | commit cancelled =>
    simp only [event, after, take, commit_observed, List.nil_append]
    rcases commit_cases m engine cancelled s with ⟨receipt, _, reaches, ok⟩ | ⟨e, _, error⟩
    · obtain ⟨pending, rfl⟩ := Bool.or_eq_false_iff.mp reaches
      simp only [ok, pending]
      exact .delivered receipt pending
    · simp only [error]
      exact .kept cancelled e
  | withoutTransactions => exact .loosened

/-- Each step keeps the remembered accessor the user of the last pending write. -/
theorem Step.remembers (step : Step m act result sent m') (h : m.Remembers) : m'.Remembers := by
  cases step with
  | added | delivered => rfl
  | refused | kept | loosened => exact h

/-! ## Conservation -/

/-- The tuples that an event adds to the pending writes: those of a call that went well. -/
def granted (e : Event Mutation Act) : List Tuple :=
  match e.act with
  | .call c => if e.isOk then c.writes (lastUser? e.before.writes) else []
  | _ => []

/-- The tuples that an event adds to the pending deletes. -/
def revoked (e : Event Mutation Act) : List Tuple :=
  match e.act with
  | .call c => if e.isOk then c.deletes else []
  | _ => []

/-- One part of the requests of an event, if it is a commit that went well. -/
def committed (part : WriteRequest → List Tuple) (e : Event Mutation Act) : List Tuple :=
  match e.act with
  | .commit _ =>
    if e.isOk then e.sent.flatMap fun
      | .write request => part request
      | _ => []
    else []
  | _ => []

/-- Whether an event is a commit that failed or was cancelled. -/
def isFailedCommit (e : Event Mutation Act) : Bool :=
  match e.act with
  | .commit _ => !e.isOk
  | _ => false

/-- Whether an event is a commit of something that was not cancelled beforehand. -/
def reachesEngine (e : Event Mutation Act) : Bool :=
  match e.act with
  | .commit cancelled => !(e.before.isEmpty || cancelled)
  | _ => false

/-- No write is lost or made twice by a step: what was pending and what is granted is committed or
pending. -/
theorem Step.writes_conserved (step : Step m act result sent m') :
    m.writes ++ granted ⟨m, act, result, sent⟩ =
      committed (·.writes) ⟨m, act, result, sent⟩ ++ m'.writes := by
  cases step with
  | added c => simp [granted, committed, Event.isOk, Except.toOption, extended]
  | delivered receipt =>
    simp [granted, committed, Event.isOk, Except.toOption, request, reset]
  | refused | kept | loosened =>
    simp [granted, committed, Event.isOk, Except.toOption, withoutTransactions]

theorem Step.deletes_conserved (step : Step m act result sent m') :
    m.deletes ++ revoked ⟨m, act, result, sent⟩ =
      committed (·.deletes) ⟨m, act, result, sent⟩ ++ m'.deletes := by
  cases step with
  | added c => simp [revoked, committed, Event.isOk, Except.toOption, extended]
  | delivered receipt =>
    simp [revoked, committed, Event.isOk, Except.toOption, request, reset]
  | refused | kept | loosened =>
    simp [revoked, committed, Event.isOk, Except.toOption, withoutTransactions]

/-- A step sends what is pending, all at once, or nothing. -/
theorem Step.sent_eq (step : Step m act result sent m') :
    sent = if reachesEngine ⟨m, act, result, sent⟩ then [.write m.request] else [] := by
  cases step with
  | delivered _ pending => simp [reachesEngine, pending]
  | kept cancelled =>
    cases cancelled <;> cases empty : m.isEmpty <;> simp [reachesEngine, empty]
  | added | refused | loosened => rfl

/-- A commit that fails changes nothing. -/
theorem Step.still (step : Step m act result sent m')
    (failed : isFailedCommit ⟨m, act, result, sent⟩ = true) : m' = m := by
  cases step with
  | kept => rfl
  | delivered | added | refused | loosened =>
    simp [isFailedCommit, Event.isOk, Except.toOption] at failed

/-- No delete carries a condition. -/
def Unconditional (m : Mutation) : Prop := ∀ t ∈ m.deletes, t.condition = none

theorem Step.unconditional (step : Step m act result sent m') (h : m.Unconditional) :
    m'.Unconditional := by
  cases step with
  | added c =>
    intro t ht
    rcases List.mem_append.mp ht with old | new
    · exact h t old
    · exact Call.condition_of_mem_deletes new
  | delivered => intro t ht; cases ht
  | refused | kept | loosened => exact h

/-- Over any run, the writes of the commits that went well and those still pending are exactly the
tuples of the calls that went well, in order and each once, and so it is with deletes. A commit
that reaches the engine sends exactly what is pending, so trying a failed one again sends the same
request. -/
theorem run_delivers_each_change_once (engine : Engine σ) (transactional : Bool) (acts : List Act)
    (s : σ) :
    let r := run (take engine.observed) { transactional } s acts
    r.events.flatMap (committed (·.writes)) ++ r.builder.writes = r.events.flatMap granted ∧
    r.events.flatMap (committed (·.deletes)) ++ r.builder.deletes = r.events.flatMap revoked ∧
    (∀ t ∈ r.builder.deletes, t.condition = none) ∧
    (∀ e ∈ r.events, e.sent =
      if reachesEngine e then
        [.write ⟨e.before.writes, e.before.deletes, e.before.transactional⟩]
      else []) ∧
    (∀ pre e mid e' post, r.events = pre ++ (e :: mid ++ e' :: post) →
      (∀ f ∈ e :: mid, isFailedCommit f) →
        e'.before = e.before ∧
        (reachesEngine e' → e'.sent =
          [.write ⟨e.before.writes, e.before.deletes, e.before.transactional⟩] ∧
          (e.sent ≠ [] → e'.sent = e.sent))) := by
  have start : Remembers { transactional } := rfl
  have keep (m : Mutation) (act : Act) (s : σ) (h : m.Remembers) :
      (after (take engine.observed) m act s).Remembers := (step_take engine h act s).remembers h
  have writes := run_conserve keep (fun m act s h => (step_take engine h act s).writes_conserved)
    _ s acts start
  have deletes := run_conserve keep (fun m act s h => (step_take engine h act s).deletes_conserved)
    _ s acts start
  have unconditional := run_invariant (p := fun m => m.Remembers ∧ m.Unconditional)
    (fun m act s h =>
      ⟨keep m act s h.1, (step_take engine h.1 act s).unconditional h.2⟩)
    { transactional } s acts ⟨start, by simp [Unconditional]⟩
  have sent := run_events keep
    (q := fun e => e.sent = if reachesEngine e then [.write e.before.request] else [])
    (fun m act s h => (step_take engine h act s).sent_eq) _ s acts start
  refine ⟨writes.symm, deletes.symm, unconditional.2, sent, ?_⟩
  intro pre e mid e' post split failed
  obtain ⟨m, s', rest, hm, events⟩ := run_rest keep start split
  have still (m : Mutation) (act : Act) (s : σ) (h : m.Remembers)
      (failed : isFailedCommit (event (take engine.observed) m act s)) :
      after (take engine.observed) m act s = m := (step_take engine h act s).still failed
  have meets {e : Event Mutation Act} {mid post : List (Event Mutation Act)}
      (events : (run (take engine.observed) m s' rest).events = mid ++ e :: post)
      (failed : ∀ f ∈ mid, isFailedCommit f) : e.before = m :=
    run_meets (q := fun f => isFailedCommit f) keep still hm events failed
  have same : e'.before = e.before :=
    (meets events failed).trans (meets (show _ = [] ++ e :: _ from events) (by simp)).symm
  refine ⟨same, fun reaches => ?_⟩
  have again : e'.sent = [.write e.before.request] := by
    rw [sent e' (by simp [split]), if_pos reaches, same]
  refine ⟨again, fun reached => ?_⟩
  have before := sent e (by simp [split])
  split at before
  · rw [again, before]
  · exact absurd before reached

end Mutation

end Rebac.Access
