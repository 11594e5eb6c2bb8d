import Mathlib.Data.List.Induction
import Rebac.Proofs.Access.Reached

/-!
# Scripted failures and requests that hang

Runs of a session over a fresh recorded engine, with relationships allowed, failures scripted and
requests made to hang between the calls. The main statement is that a call that fails leaves what is
stored and every builder as it was, that exactly the calls that reach the engine are logged, and
that the failure scripted last since the last request is the one that the next request fails with.
-/

namespace Rebac.Access

open Engine (Recorded recorded Request)

namespace Settled

variable {α : Type} {s s' : Recorded} {cancelled : Bool} {request? : Option Request}
  {result : Except Failure α}

theorem hanging_eq (settled : Settled s cancelled request? result s') :
    s'.hanging = s.hanging := by
  cases settled with
  | refused | done | skipped | failed => rfl
  | answered request => cases request <;> rfl

/-- A request uses up the scripted failure, and nothing else does. -/
theorem failNext_eq_some (settled : Settled s cancelled request? result s')
    (failure : Nat × String) :
    s'.failNext = some failure ↔ s.failNext = some failure ∧ s'.requests = s.requests := by
  cases settled with
  | refused | done | skipped => simp
  | failed request => simp [Recorded.log]
  | answered request => cases request <;> simp [carriedOut, Recorded.log]

/-- A call that fails stores nothing. -/
theorem stored_eq_of_error {e : Failure} (settled : Settled s cancelled request? result s')
    (failed : result = .error e) : s'.stored = s.stored := by
  cases settled with
  | refused | skipped | failed => rfl
  | done | answered => cases failed

/-- A call that failed was logged unless it came in the wrong order or was cancelled beforehand. -/
theorem length_of_error {e : Failure} (settled : Settled s cancelled request? result s')
    (failed : result = .error e) :
    (if cancelled then [] else request?.toList).length =
      if e.isSequence || cancelled then 0 else 1 := by
  cases settled with
  | refused e' sequence silent =>
    cases failed
    simp [sequence, silent]
  | skipped beforehand => simp [beforehand]
  | failed request e' going asked fault =>
    cases failed
    have engine : e.isSequence = false := by
      unfold fault? at fault
      split at fault
      · cases fault
        rfl
      · obtain ⟨_, -, rfl⟩ := Option.map_eq_some_iff.mp fault
        rfl
    simp [going, asked, engine]
  | done | answered => cases failed

/-- A call that reached the engine failed exactly where there was something to fail with. -/
theorem of_reached (settled : Settled s cancelled request? result s')
    (reached : (if cancelled then [] else request?.toList) ≠ []) :
    match fault? s with
    | some e => result = .error e
    | none => ∃ a, result = .ok a := by
  cases settled with
  | refused _ _ silent | done _ silent => simp [silent] at reached
  | skipped beforehand => simp [beforehand] at reached
  | failed request e going asked fault => simp only [fault]
  | answered request a going asked sound =>
    simp only [sound]
    exact ⟨a, rfl⟩

/-- Only a request to the engine ends with a failure of the engine. -/
theorem of_engine {e : Engine.Error} (settled : Settled s cancelled request? result s')
    (failed : result = .error (.engine e)) :
    (if cancelled then [] else request?.toList) ≠ [] ∧ fault? s = some (.engine e) := by
  cases settled with
  | refused e' sequence =>
    cases failed
    cases sequence
  | failed request e' going asked fault =>
    cases failed
    exact ⟨by simp [going, asked], fault⟩
  | skipped | done | answered => cases failed

end Settled

namespace Session

variable {ε σ : Type}

theorem engine_step (s : Session ε σ) (call : Step) : (s.step call).2.engine = s.engine := by
  cases call with
  | mutate name call | ask name call =>
    simp only [step]
    split <;> rfl
  | validate name how => cases how <;> rfl
  | direct call => cases call <;> rfl
  | newMutation | commit | newChecks | query | addMembers | addUsers | withoutTransactions => rfl

/-! ## Runs -/

/-- One use of a session over the recorded engine: a call, or a word to the engine itself. -/
inductive Act where
  | call (call : Step)
  | allow (r : Relationship)
  | scriptFailure (status : Nat) (message : String)
  | hang
deriving Repr

/-- The session after one act. -/
def take (s : Session ε Recorded) : Act → Session ε Recorded
  | .call call => (s.step call).2
  | .allow r => { s with state := s.state.allow r }
  | .scriptFailure status message => { s with state := s.state.scriptFailure status message }
  | .hang => { s with state := s.state.hang }

/-- A session over a fresh recorded engine, before any act. -/
def start (permissions : Permissions ε) : Session ε Recorded :=
  { engine := fun _ => recorded, permissions, state := {} }

/-- The session after acts over a fresh recorded engine. -/
def ran (permissions : Permissions ε) (acts : List Act) : Session ε Recorded :=
  acts.foldl take (start permissions)

theorem ran_snoc (permissions : Permissions ε) (acts : List Act) (act : Act) :
    ran permissions (acts ++ [act]) = (ran permissions acts).take act := by
  simp [ran]

theorem ran_over (permissions : Permissions ε) (acts : List Act) (handle : ε) :
    (ran permissions acts).engine handle = recorded := by
  induction acts using List.reverseRecOn with
  | nil => rfl
  | append_singleton acts act ih =>
    rw [ran_snoc]
    cases act with
    | call call =>
      rw [take, engine_step]
      exact ih
    | allow | scriptFailure | hang => exact ih

/-- Whatever came before, the next call settles over the recorded engine. -/
theorem settled_ran (permissions : Permissions ε) (acts : List Act) (call : Step) :
    Settled (ran permissions acts).state call.cancelled ((ran permissions acts).request? call)
      ((ran permissions acts).step call).1 ((ran permissions acts).step call).2.state :=
  settled_step (ran_over permissions acts) call

theorem allow_requests (r : Relationship) (s : Recorded) :
    (s.allow r).requests = s.requests ∧ (s.allow r).failNext = s.failNext ∧
      (s.allow r).hanging = s.hanging ∧ (s.allow r).stored = s.stored := by
  unfold Recorded.allow
  split <;> exact ⟨rfl, rfl, rfl, rfl⟩

/-! ### The log grows -/

theorem requests_prefix_take (permissions : Permissions ε) (acts : List Act) (act : Act) :
    (ran permissions acts).state.requests <+:
      (ran permissions (acts ++ [act])).state.requests := by
  rw [ran_snoc]
  cases act with
  | call call =>
    rw [take, (settled_ran permissions acts call).requests_eq]
    exact List.prefix_append ..
  | allow r =>
    have same := (allow_requests r (ran permissions acts).state).1
    exact same ▸ List.prefix_rfl
  | scriptFailure | hang => exact List.prefix_rfl

/-- The log only grows. By induction on the later acts. -/
theorem requests_prefix (permissions : Permissions ε) (before later : List Act) :
    (ran permissions before).state.requests <+:
      (ran permissions (before ++ later)).state.requests := by
  induction later using List.reverseRecOn with
  | nil => simp only [List.append_nil, List.prefix_rfl]
  | append_singleton later act ih =>
    rw [← List.append_assoc]
    exact ih.trans (requests_prefix_take permissions _ act)

/-! ### What lies ahead of the next request -/

/-- Once the engine hangs, it hangs for good. -/
theorem hanging_iff (permissions : Permissions ε) (acts : List Act) :
    (ran permissions acts).state.hanging = true ↔ .hang ∈ acts := by
  induction acts using List.reverseRecOn with
  | nil => simp [ran, start]
  | append_singleton acts act ih =>
    rw [ran_snoc, List.mem_append, List.mem_singleton, ← ih]
    cases act with
    | call call => simp [take, (settled_ran permissions acts call).hanging_eq]
    | allow r => simp [take, (allow_requests r _).2.2.1]
    | scriptFailure => simp [take, Recorded.scriptFailure]
    | hang => simp [take, Recorded.hang]

/-- A failure lies ahead after some acts: it is the last one that was scripted, and no request was
logged since. -/
def Ahead (permissions : Permissions ε) (acts : List Act) (status : Nat) (message : String) :
    Prop :=
  ∃ before later, acts = before ++ .scriptFailure status message :: later ∧
    (∀ status' message', .scriptFailure status' message' ∉ later) ∧
    (ran permissions acts).state.requests = (ran permissions before).state.requests

/-- A scripted failure takes the place of the one before it. -/
theorem ahead_scriptFailure (permissions : Permissions ε) (acts : List Act)
    (status status' : Nat) (message message' : String) :
    Ahead permissions (acts ++ [.scriptFailure status' message']) status message ↔
      status' = status ∧ message' = message := by
  constructor
  · rintro ⟨before, later, split, last, -⟩
    rcases List.eq_nil_or_concat later with rfl | ⟨init, act, rfl⟩
    · have same := (List.append_inj' split rfl).2
      simpa using same
    · rw [List.concat_eq_append, ← List.cons_append, ← List.append_assoc] at split
      have same := List.singleton_inj.mp (List.append_inj' split rfl).2
      subst same
      exact absurd (by simp) (last status' message')
  · rintro ⟨rfl, rfl⟩
    refine ⟨acts, [], rfl, by simp, ?_⟩
    rw [ran_snoc]
    rfl

/-- Another act leaves the failure ahead exactly where it logs no request. -/
theorem ahead_other (permissions : Permissions ε) (acts : List Act) {act : Act}
    (other : ∀ status message, act ≠ .scriptFailure status message)
    (status : Nat) (message : String) :
    Ahead permissions (acts ++ [act]) status message ↔
      Ahead permissions acts status message ∧
        (ran permissions (acts ++ [act])).state.requests =
          (ran permissions acts).state.requests := by
  constructor
  · rintro ⟨before, later, split, last, quiet⟩
    rcases List.eq_nil_or_concat later with rfl | ⟨init, act', rfl⟩
    · have same := List.singleton_inj.mp (List.append_inj' split rfl).2
      exact absurd same (other status message)
    · rw [List.concat_eq_append, ← List.cons_append, ← List.append_assoc] at split
      obtain ⟨rfl, same⟩ := List.append_inj' split rfl
      obtain rfl := List.singleton_inj.mp same
      -- Between the failure and the last act the log can neither have grown nor shrunk.
      have grown := requests_prefix_take permissions
        (before ++ .scriptFailure status message :: init) act
      have older := requests_prefix permissions before (.scriptFailure status message :: init)
      rw [quiet] at grown
      have level := grown.eq_of_length_le older.length_le
      refine ⟨⟨before, init, rfl, ?_, level⟩, by rw [quiet, level]⟩
      intro status' message' mem
      exact last status' message' (by simp [mem])
  · rintro ⟨⟨before, later, rfl, last, quiet⟩, still⟩
    refine ⟨before, later ++ [act], by simp, ?_, by rw [still, quiet]⟩
    intro status' message' mem
    rcases List.mem_append.mp mem with early | final
    · exact last status' message' early
    · exact other status' message' (List.mem_singleton.mp final).symm

/-- What the engine fails with next is the failure ahead. By induction from the last act. -/
theorem failNext_iff (permissions : Permissions ε) (acts : List Act) (status : Nat)
    (message : String) :
    (ran permissions acts).state.failNext = some (status, message) ↔
      Ahead permissions acts status message := by
  induction acts using List.reverseRecOn with
  | nil => simp [ran, start, Ahead]
  | append_singleton acts act ih =>
    cases act with
    | call call =>
      rw [ahead_other permissions acts (by simp), ← ih, ran_snoc, take,
        (settled_ran permissions acts call).failNext_eq_some]
    | allow r =>
      rw [ahead_other permissions acts (by simp), ← ih, ran_snoc, take]
      simp [(allow_requests r _).1, (allow_requests r _).2.1]
    | scriptFailure status' message' =>
      rw [ahead_scriptFailure, ran_snoc]
      simp [take, Recorded.scriptFailure]
    | hang =>
      rw [ahead_other permissions acts (by simp), ← ih, ran_snoc]
      simp [take, Recorded.hang]

/-- A request made after some acts is cancelled in the end where requests hang, and else fails as
the failure that lies ahead says. -/
theorem fault?_ran (permissions : Permissions ε) (acts : List Act) (e : Failure) :
    fault? (ran permissions acts).state = some e ↔
      (.hang ∈ acts ∧ e = .cancelled) ∨
      (.hang ∉ acts ∧ ∃ status message, Ahead permissions acts status message ∧
        e = .engine (.api status "scripted" message)) := by
  unfold fault?
  by_cases hangs : Act.hang ∈ acts
  · rw [if_pos ((hanging_iff permissions acts).mpr hangs)]
    simp [hangs, eq_comm]
  · rw [if_neg (mt (hanging_iff permissions acts).mp hangs)]
    simp only [Option.map_eq_some_iff, Prod.exists, failNext_iff, hangs, not_false_eq_true,
      true_and, false_and, false_or]
    simp only [eq_comm]

/-- Unless requests hang or a failure lies ahead, a request has nothing to fail with. -/
theorem fault?_ran_eq_none {permissions : Permissions ε} {acts : List Act} (awake : .hang ∉ acts)
    (clear : ∀ status message, ¬ Ahead permissions acts status message) :
    fault? (ran permissions acts).state = none := by
  refine Option.eq_none_iff_forall_ne_some.mpr ?_
  intro e fault
  rcases (fault?_ran permissions acts e).mp fault with ⟨hangs, -⟩ | ⟨-, _, _, ahead, -⟩
  · exact awake hangs
  · exact clear _ _ ahead

/-- Over any run, a call logs exactly the request that it reaches the engine with. One that fails
leaves what is stored and every builder as it was; it was logged once, unless it came in the wrong
order or was cancelled beforehand. A call that reaches the engine ends as cancelled once requests
hang, and else fails exactly where a failure lies ahead, with the status and message scripted. Calls
fail with no other failure of the engine. -/
theorem ran_fails_as_scripted (permissions : Permissions ε) (acts : List Act) (call : Step) :
    let s := ran permissions acts
    let result := (s.step call).1
    let s' := (s.step call).2
    s'.state.requests = s.state.requests ++ s.sent call ∧
    (∀ e, result = .error e →
      s'.state.stored = s.state.stored ∧ s.SameBuilders s' ∧
      (s.sent call).length = if e.isSequence || call.cancelled then 0 else 1) ∧
    (s.sent call ≠ [] →
      (.hang ∈ acts → result = .error .cancelled) ∧
      (.hang ∉ acts → ∀ status message, Ahead permissions acts status message →
        result = .error (.engine (.api status "scripted" message))) ∧
      (.hang ∉ acts → (∀ status message, ¬ Ahead permissions acts status message) →
        ∃ answer, result = .ok answer)) ∧
    ∀ e, result = .error (.engine e) →
      s.sent call ≠ [] ∧ .hang ∉ acts ∧
      ∃ status message, Ahead permissions acts status message ∧
        e = .api status "scripted" message := by
  intro s result s'
  have settled := settled_ran permissions acts call
  refine ⟨settled.requests_eq, ?_, ?_, ?_⟩
  · intro e failed
    exact ⟨settled.stored_eq_of_error failed, sameBuilders_of_error failed,
      settled.length_of_error failed⟩
  · intro reached
    have ends := settled.of_reached reached
    refine ⟨?_, ?_, ?_⟩
    · intro hangs
      have fault := (fault?_ran permissions acts .cancelled).mpr (.inl ⟨hangs, rfl⟩)
      rw [fault] at ends
      exact ends
    · intro awake status message ahead
      have fault := (fault?_ran permissions acts _).mpr (.inr ⟨awake, status, message, ahead, rfl⟩)
      rw [fault] at ends
      exact ends
    · intro awake clear
      rw [fault?_ran_eq_none awake clear] at ends
      exact ends
  · intro e failed
    obtain ⟨reached, fault⟩ := settled.of_engine failed
    rcases (fault?_ran permissions acts _).mp fault with ⟨-, cancelled⟩ |
      ⟨awake, status, message, ahead, same⟩
    · cases cancelled
    · cases same
      exact ⟨reached, awake, status, message, ahead, rfl⟩

end Session

end Rebac.Access
