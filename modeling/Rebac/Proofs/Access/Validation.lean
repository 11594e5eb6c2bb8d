import Rebac.Proofs.Access.Checks

/-!
# What validations answer

A validation of all questions asks them in one batch and takes the answers only when there is one
for each question. Then the answer at a place is the answer to the question at that place, and the
questions are dropped. In every other case the validation fails and keeps them. A validation of the
first question asks about that one alone.
-/

namespace Rebac.Access.Checks

open Engine (Answer Observed Request)

variable {σ : Type} {engine : Engine σ} {c after : Checks} {s : σ} {cancelled : Bool}
  {result : Except Failure (List CheckOutcome)} {sent : List Request}

/-- The engine answers the questions, one verdict for each. -/
def AnswersEach (engine : Engine σ) (items : List CheckItem) (s : σ) (verdicts : List Bool) :
    Prop :=
  (engine.checkBatch items s).1 = .value verdicts ∧ verdicts.length = items.length

/-- The ways a validation of all questions can end: whether it was cancelled beforehand, its result,
the requests it sends, and the checks after it. -/
inductive Validated (engine : Engine σ) (c : Checks) (s : σ) :
    Bool → Except Failure (List CheckOutcome) → List Request → Checks → Prop where
  | nothing (cancelled : Bool) (empty : c.pending = []) :
    Validated engine c s cancelled (.ok []) [] {}
  | answered (outcomes : List CheckOutcome) (asked : c.pending ≠ [])
      (each : AnswersEach engine c.pending s (outcomes.map (·.allowed)))
      (tuples : outcomes.map (·.tuple) = c.pending.map (·.tuple)) :
    Validated engine c s false (.ok outcomes) [.checkBatch c.pending] {}
  | miscounted (verdicts : List Bool) (asked : c.pending ≠ [])
      (given : (engine.checkBatch c.pending s).1 = .value verdicts)
      (other : verdicts.length ≠ c.pending.length) :
    Validated engine c s false
      (.error (.engine (.decode (.batchSize c.pending.length verdicts.length))))
      [.checkBatch c.pending] c
  | failed (e : Engine.Error) (asked : c.pending ≠ [])
      (given : (engine.checkBatch c.pending s).1 = .failure e) :
    Validated engine c s false (.error (.engine e)) [.checkBatch c.pending] c
  | hung (asked : c.pending ≠ []) (given : (engine.checkBatch c.pending s).1 = .pending) :
    Validated engine c s false (.error .cancelled) [.checkBatch c.pending] c
  | cancelled (asked : c.pending ≠ []) : Validated engine c s true (.error .cancelled) [] c

/-- Questions put together with as many verdicts keep both lists. -/
theorem zipWith_outcomes {items : List CheckItem} {verdicts : List Bool}
    (count : verdicts.length = items.length) :
    let outcomes := items.zipWith (fun item allowed => CheckOutcome.mk allowed item.tuple) verdicts
    outcomes.map (·.allowed) = verdicts ∧ outcomes.map (·.tuple) = items.map (·.tuple) := by
  induction items generalizing verdicts with
  | nil => exact ⟨(List.length_eq_zero_iff.mp count).symm, rfl⟩
  | cons item items ih =>
    cases verdicts with
    | nil => cases count
    | cons allowed verdicts =>
      have rest := ih (Nat.succ.inj count)
      simp only [List.zipWith_cons_cons, List.map_cons]
      exact ⟨congrArg _ rest.1, congrArg _ rest.2⟩

theorem validated (engine : Engine σ) (c : Checks) (cancelled : Bool) (s : σ) :
    let v := c.validate engine.observed cancelled ⟨s, []⟩
    Validated engine c s cancelled v.1.1 v.2.requests v.1.2 := by
  simp only [validate, Engine.observed, attempt_observe]
  by_cases empty : c.pending = []
  · rw [if_pos (List.isEmpty_iff.mpr empty)]
    exact .nothing cancelled empty
  · rw [if_neg (mt List.isEmpty_iff.mp empty)]
    cases cancelled with
    | true => exact .cancelled empty
    | false =>
      simp only [attempt, Bool.false_eq_true, if_false]
      rcases reply : engine.checkBatch c.pending s with ⟨answer, later⟩
      have given : (engine.checkBatch c.pending s).1 = answer := congrArg Prod.fst reply
      cases answer with
      | failure e => exact .failed e empty given
      | pending => exact .hung empty given
      | value verdicts =>
        by_cases count : verdicts.length = c.pending.length
        · have outcomes := zipWith_outcomes count
          simp only [if_pos count]
          exact .answered _ empty (outcomes.1.symm ▸ ⟨given, count⟩) outcomes.2
        · simp only [if_neg count]
          exact .miscounted verdicts empty given count

/-- A validation sends the pending questions in one batch, or nothing when there are none or when it
is cancelled beforehand. -/
theorem Validated.sent_eq (ends : Validated engine c s cancelled result sent after) :
    sent = if c.pending = [] ∨ cancelled = true then [] else [.checkBatch c.pending] := by
  cases ends with
  | nothing cancelled empty => rw [if_pos (.inl empty)]
  | cancelled asked => rw [if_pos (.inr rfl)]
  | answered _ asked | miscounted _ asked | failed _ asked | hung asked => simp [asked]

theorem Validated.of_ok {outcomes : List CheckOutcome}
    (ends : Validated engine c s cancelled (.ok outcomes) sent after) :
    after = {} ∧ outcomes.map (·.tuple) = c.pending.map (·.tuple) ∧
      (c.pending ≠ [] → cancelled = false ∧
        AnswersEach engine c.pending s (outcomes.map (·.allowed))) := by
  cases ends with
  | nothing cancelled empty => simp [empty]
  | answered outcomes asked each tuples => exact ⟨rfl, tuples, fun _ => ⟨rfl, each⟩⟩

/-- With one answer for each question there is a result. -/
theorem Validated.of_answered (ends : Validated engine c s false result sent after)
    {verdicts : List Bool} (each : AnswersEach engine c.pending s verdicts) :
    ∃ outcomes, result = .ok outcomes := by
  have given := each.1
  cases ends with
  | nothing | answered => exact ⟨_, rfl⟩
  | miscounted others asked given' other =>
    cases given.symm.trans given'
    exact absurd each.2 other
  | failed e asked given' => cases given.symm.trans given'
  | hung asked given' => cases given.symm.trans given'

/-- Without one answer for each question there is none, and the checks stay as they are. -/
theorem Validated.of_unanswered (ends : Validated engine c s cancelled result sent after)
    (asked : c.pending ≠ [])
    (unanswered : cancelled = true ∨ ∀ verdicts, ¬ AnswersEach engine c.pending s verdicts) :
    ∃ e, result = .error e ∧ after = c := by
  cases ends with
  | nothing cancelled empty => exact absurd empty asked
  | answered outcomes asked each tuples =>
    rcases unanswered with h | none
    · cases h
    · exact absurd each (none _)
  | miscounted | failed | hung | cancelled => exact ⟨_, rfl, rfl⟩

/-- The first question is asked alone. The checks are dropped when it is answered, and kept when it
is not. -/
theorem validateSingle_first {first : CheckItem} {rest : List CheckItem}
    (pending : c.pending = first :: rest) (engine : Engine σ) (cancelled : Bool) (s : σ) :
    let v := c.validateSingle engine.observed cancelled ⟨s, []⟩
    v.2.requests = (if cancelled = true then [] else [.check first]) ∧
      ((∃ allowed, cancelled = false ∧ (engine.check first s).1 = .value allowed ∧
          v.1 = (.ok allowed, {})) ∨
        (cancelled = true ∨ ∀ allowed, (engine.check first s).1 ≠ .value allowed) ∧
          ∃ e, v.1 = (.error e, c)) := by
  simp only [validateSingle, pending, Engine.observed, attempt_observe, List.nil_append]
  cases cancelled with
  | true => exact ⟨rfl, .inr ⟨.inl rfl, .cancelled, rfl⟩⟩
  | false =>
    simp only [attempt, Bool.false_eq_true, if_false]
    rcases engine.check first s with ⟨answer, later⟩
    cases answer with
    | value allowed => exact ⟨rfl, .inl ⟨allowed, trivial, rfl, rfl⟩⟩
    | failure e => exact ⟨rfl, .inr ⟨.inr (by simp), .engine e, rfl⟩⟩
    | pending => exact ⟨rfl, .inr ⟨.inr (by simp), .cancelled, rfl⟩⟩

/-- In every state that a run of checks reaches, a validation goes well exactly when the engine
gives one answer for each pending question. It has then sent these questions, in order and in one
batch, each outcome is the answer at its place with the tuple of its question, and the checks start
anew. Otherwise it fails, and the checks stay as they are. Whether all or any are allowed is read
from the same outcomes. The first question alone is sent alone, and its answer drops all of them. -/
theorem run_validates_every_question (engine : Engine σ) (s : σ) (acts : List Act)
    (cancelled : Bool) (s' : σ) :
    let c := (run (take engine.observed) {} s acts).builder
    let v := c.validate engine.observed cancelled ⟨s', []⟩
    let single := c.validateSingle engine.observed cancelled ⟨s', []⟩
    (∀ outcomes after, v.1 = (.ok outcomes, after) →
      v.2.requests = (if c.pending = [] then [] else [.checkBatch c.pending]) ∧
      outcomes.map (·.tuple) = c.pending.map (·.tuple) ∧
      outcomes.length = c.pending.length ∧
      (c.pending ≠ [] → (engine.checkBatch c.pending s').1 = .value (outcomes.map (·.allowed))) ∧
      after = {}) ∧
    (c.pending = [] ∨ (cancelled = false ∧ ∃ verdicts,
        (engine.checkBatch c.pending s').1 = .value verdicts ∧
        verdicts.length = c.pending.length) →
      ∃ outcomes, v.1 = (.ok outcomes, {})) ∧
    (c.pending ≠ [] → (cancelled = true ∨ ∀ verdicts,
        (engine.checkBatch c.pending s').1 = .value verdicts →
        verdicts.length ≠ c.pending.length) →
      ∃ e, v.1 = (.error e, c)) ∧
    c.validateAll engine.observed cancelled ⟨s', []⟩ =
      ((v.1.1.map fun outcomes => decide (∀ o ∈ outcomes, o.allowed = true), v.1.2), v.2) ∧
    c.validateAny engine.observed cancelled ⟨s', []⟩ =
      ((v.1.1.map fun outcomes => decide (∃ o ∈ outcomes, o.allowed = true), v.1.2), v.2) ∧
    (∀ first rest, c.pending = first :: rest →
      single.2.requests = (if cancelled = true then [] else [.check first]) ∧
      (∀ allowed, cancelled = false → (engine.check first s').1 = .value allowed →
        single.1 = (.ok allowed, {})) ∧
      (cancelled = true ∨ (∀ allowed, (engine.check first s').1 ≠ .value allowed) →
        ∃ e, single.1 = (.error e, c))) := by
  intro c v single
  have ends : Validated engine c s' cancelled v.1.1 v.2.requests v.1.2 :=
    validated engine c cancelled s'
  refine ⟨fun outcomes after ok => ?_, fun answered => ?_, fun asked unanswered => ?_, ?_, ?_,
    fun first rest pending => ?_⟩
  · have sent := ends.sent_eq
    rw [ok] at ends
    obtain ⟨reset, tuples, each⟩ := ends.of_ok
    have count : outcomes.length = c.pending.length := by simpa using congrArg List.length tuples
    refine ⟨?_, tuples, count, fun asked => (each asked).2.1, reset⟩
    by_cases empty : c.pending = []
    · rw [sent, if_pos (.inl empty), if_pos empty]
    · rw [sent, if_neg (by simp [empty, (each empty).1]), if_neg empty]
  · have ok : ∃ outcomes, v.1.1 = .ok outcomes := by
      rcases answered with empty | ⟨rfl, verdicts, each⟩
      · exact ⟨[], by simp [v, validate, empty]⟩
      · exact ends.of_answered each
    obtain ⟨outcomes, ok⟩ := ok
    rw [ok] at ends
    exact ⟨outcomes, Prod.ext ok ends.of_ok.1⟩
  · obtain ⟨e, error, same⟩ := ends.of_unanswered asked
      (unanswered.imp_right fun none verdicts each => none verdicts each.1 each.2)
    exact ⟨e, Prod.ext error same⟩
  · simp only [validateAll, List.all_eq]
    rfl
  · simp only [validateAny, List.any_eq]
    rfl
  · obtain ⟨sent, ends⟩ := validateSingle_first pending engine cancelled s'
    refine ⟨sent, fun allowed on given => ?_, fun unanswered => ?_⟩
    · rcases ends with ⟨allowed', _, given', ok⟩ | ⟨off | none, _⟩
      · cases given.symm.trans given'
        exact ok
      · cases on.symm.trans off
      · exact absurd given (none allowed)
    · rcases ends with ⟨allowed, on, given, _⟩ | ⟨_, error⟩
      · rcases unanswered with off | none
        · cases on.symm.trans off
        · exact absurd given (none allowed)
      · exact error

end Rebac.Access.Checks
