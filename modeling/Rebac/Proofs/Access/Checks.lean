import Rebac.Proofs.Access.Observation

/-!
# Runs of checks

What a collection of checks does over any engine, act by act: a call adds a question, and a
validation either drops all questions or fails and keeps them.
-/

namespace Rebac.Access

open Condition (Context)
open Engine (Observed)
open Naming (Entity)

/-- The user of the last of some questions. -/
def lastAsked? (items : List CheckItem) : Option String := items.getLast?.map (·.user)

namespace Checks

/-- One use of checks: a call that adds a question, or a validation, perhaps cancelled before. -/
inductive Act where
  | call (call : Call)
  | validate (how : Validation) (cancelled : Bool)
deriving Repr

variable {σ : Type}

/-- Answers questions in one of the ways. -/
def validateBy (c : Checks) (how : Validation) (engine : Engine σ) (cancelled : Bool) (s : σ) :
    (Except Failure Result × Checks) × σ :=
  let close {α : Type} (give : α → Result) (answer : (Except Failure α × Checks) × σ) :=
    ((answer.1.1.map give, answer.1.2), answer.2)
  match how with
  | .single => close .verdict (c.validateSingle engine cancelled s)
  | .each => close .outcomes (c.validate engine cancelled s)
  | .all => close .verdict (c.validateAll engine cancelled s)
  | .any => close .verdict (c.validateAny engine cancelled s)

/-- Uses checks. A call that fails leaves them as they are. -/
def take (engine : Engine σ) (c : Checks) : Act → σ → (Except Failure Result × Checks) × σ
  | .call call, s =>
    match c.apply call with
    | .ok after => ((.ok .done, after), s)
    | .error e => ((.error e, c), s)
  | .validate how cancelled, s => c.validateBy how engine cancelled s

/-! ## Calls -/

namespace Call

/-- What a continuation asks for: the relation, the resource and the values of its question. -/
structure Continued where
  call : Continuation
  relation : String
  resource : Entity
  context : Option Context

/-- What a call asks for, if it is a continuation. -/
def continued? : Call → Option Continued
  | .ask .. => none
  | .askAlso verb relation resource context =>
    some ⟨continuation verb context, relation, resource, context⟩

end Call

/-- The remembered accessor is the user of the last question. -/
def Remembers (c : Checks) : Prop := c.accessor = lastAsked? c.pending

theorem remembers_push (c : Checks) (user relation : String) (resource : Entity)
    (context : Option Context) : (c.push user relation resource context).Remembers := by
  simp [Remembers, push, lastAsked?]

/-- A continuation goes on with the user of the last question, and fails when there is none. -/
theorem continueWith_eq {c : Checks} (h : c.Remembers) (call : Continuation) (relation : String)
    (resource : Entity) (context : Option Context) :
    c.continueWith call relation resource context =
      match lastAsked? c.pending with
      | some user => .ok (c.push user relation resource context)
      | none => .error (.nobodyRemembered call) := by
  obtain ⟨pending, accessor⟩ := c
  obtain rfl : accessor = lastAsked? pending := h
  rfl

theorem remembers_apply {c after : Checks} (call : Call) (ok : c.apply call = .ok after) :
    after.Remembers := by
  cases call with
  | ask verb accessor relation resource context =>
    cases ok
    exact remembers_push ..
  | askAlso verb relation resource context =>
    simp only [apply, continueWith] at ok
    split at ok
    · cases ok
      exact remembers_push ..
    · cases ok

/-! ## Validations -/

/-- A validation of all questions drops them, or it fails and keeps them. -/
theorem validate_cases (c : Checks) (engine : Engine σ) (cancelled : Bool) (s : σ) :
    (∃ outcomes, (c.validate engine cancelled s).1 = (.ok outcomes, reset)) ∨
      ∃ e, (c.validate engine cancelled s).1 = (.error e, c) := by
  unfold validate
  split
  · exact .inl ⟨[], rfl⟩
  · rcases attempt cancelled (engine.checkBatch c.pending) s with ⟨e | verdicts, s⟩
    · exact .inr ⟨e, rfl⟩
    · simp only
      split
      · exact .inl ⟨_, rfl⟩
      · exact .inr ⟨_, rfl⟩

/-- So does a validation of the first question alone. -/
theorem validateSingle_cases {c : Checks} (h : c.Remembers) (engine : Engine σ) (cancelled : Bool)
    (s : σ) :
    (∃ allowed, (c.validateSingle engine cancelled s).1 = (.ok allowed, reset)) ∨
      ∃ e, (c.validateSingle engine cancelled s).1 = (.error e, c) := by
  obtain ⟨pending, accessor⟩ := c
  cases pending with
  | nil =>
    cases h
    exact .inl ⟨false, rfl⟩
  | cons first rest =>
    simp only [validateSingle]
    rcases attempt cancelled (engine.check first) s with ⟨e | allowed, s⟩
    · exact .inr ⟨e, rfl⟩
    · exact .inl ⟨allowed, rfl⟩

theorem validateBy_cases {c : Checks} (h : c.Remembers) (how : Validation) (engine : Engine σ)
    (cancelled : Bool) (s : σ) :
    (∃ result, (c.validateBy how engine cancelled s).1 = (.ok result, reset)) ∨
      ∃ e, (c.validateBy how engine cancelled s).1 = (.error e, c) := by
  cases how with
  | single =>
    rcases validateSingle_cases h engine cancelled s with ⟨_, ok⟩ | ⟨e, error⟩
    · exact .inl ⟨_, by simp only [validateBy, ok]; rfl⟩
    · exact .inr ⟨e, by simp only [validateBy, error]; rfl⟩
  | each | all | any =>
    rcases validate_cases c engine cancelled s with ⟨_, ok⟩ | ⟨e, error⟩
    · exact .inl ⟨_, by simp only [validateBy, validateAll, validateAny, ok]; rfl⟩
    · exact .inr ⟨e, by simp only [validateBy, validateAll, validateAny, error]; rfl⟩

/-- An act that fails changes nothing. -/
theorem take_error {c after : Checks} (h : c.Remembers) {engine : Engine σ} {act : Act} {s : σ}
    {e : Failure} (error : (take engine c act s).1 = (.error e, after)) : after = c := by
  cases act with
  | call call =>
    simp only [take] at error
    split at error <;> cases error
    rfl
  | validate how cancelled =>
    simp only [take] at error
    rcases validateBy_cases h how engine cancelled s with ⟨_, ok⟩ | ⟨_, same⟩
    · rw [ok] at error
      cases error
    · rw [same] at error
      cases error
      rfl

theorem remembers_take (engine : Engine σ) {c : Checks} (h : c.Remembers) (act : Act) (s : σ) :
    (take engine c act s).1.2.Remembers := by
  cases act with
  | call call =>
    simp only [take]
    split
    · exact remembers_apply call ‹_›
    · exact h
  | validate how cancelled =>
    simp only [take]
    rcases validateBy_cases h how engine cancelled s with ⟨_, ok⟩ | ⟨_, error⟩
    · rw [ok]
      rfl
    · rw [error]
      exact h

end Checks

end Rebac.Access
