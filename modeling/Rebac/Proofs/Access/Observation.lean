import Rebac.Access.Session
import Rebac.Engine.Recorded

/-!
# Runs that are observed

Any engine with a log of the requests that reach it. The log has no bearing on the answers, so a
run over the observed engine is the run over the engine itself, and the log tells what each act of a
builder sent.
-/

namespace Rebac

namespace Engine

/-- The state of an engine, with the requests that reached it, in order. -/
structure Observed (σ : Type) where
  inner : σ
  requests : List Request := []

/-- A call that is logged. -/
def observe {σ α : Type} (request : Request) (call : σ → Answer α × σ) (s : Observed σ) :
    Answer α × Observed σ :=
  let (answer, inner) := call s.inner
  (answer, ⟨inner, s.requests ++ [request]⟩)

/-- The engine `e` with a log. -/
def observed {σ : Type} (e : Engine σ) : Engine (Observed σ) where
  write request := observe (.write request) (e.write request)
  check item := observe (.check item) (e.check item)
  checkBatch items := observe (.checkBatch items) (e.checkBatch items)
  listObjects user relation objectType :=
    observe (.listObjects user relation objectType) (e.listObjects user relation objectType)
  listUsers object relation userType :=
    observe (.listUsers object relation userType) (e.listUsers object relation userType)
  read filter := observe (.read filter) (e.read filter)

end Engine

namespace Access

open Engine (Answer Observed Request observe)

/-- An observed call is answered like the call itself, and it is logged unless it was cancelled
beforehand. -/
theorem attempt_observe {σ α : Type} (cancelled : Bool) (request : Request)
    (call : σ → Answer α × σ) (s : Observed σ) :
    attempt cancelled (observe request call) s =
      ((attempt cancelled call s.inner).1,
        ⟨(attempt cancelled call s.inner).2,
          s.requests ++ if cancelled then [] else [request]⟩) := by
  cases cancelled with
  | true => simp [attempt]
  | false =>
    simp only [attempt, observe, Bool.false_eq_true, if_false]
    rcases call s.inner with ⟨answer, inner⟩
    cases answer <;> rfl

/-- What became of one act of a builder. -/
structure Event (β α : Type) where
  /-- The builder before the act. -/
  before : β
  act : α
  result : Except Failure Result
  /-- The requests that reached the engine. -/
  sent : List Request

/-- Whether an act went well. -/
def Event.isOk {β α : Type} (e : Event β α) : Bool := e.result.toOption.isSome

/-- What comes of acts taken one after the other. -/
structure Run (β α σ : Type) where
  events : List (Event β α)
  builder : β
  state : σ

variable {β α σ : Type}
  (take : β → α → Observed σ → (Except Failure Result × β) × Observed σ)

/-- The event of one act. -/
def event (b : β) (act : α) (s : σ) : Event β α :=
  ⟨b, act, (take b act ⟨s, []⟩).1.1, (take b act ⟨s, []⟩).2.requests⟩

/-- The builder after one act. -/
def after (b : β) (act : α) (s : σ) : β := (take b act ⟨s, []⟩).1.2

/-- The run of acts from a builder and a state of the engine. Each act has its own log. -/
def run : β → σ → List α → Run β α σ
  | b, s, [] => ⟨[], b, s⟩
  | b, s, act :: rest =>
    let later := run (after take b act s) (take b act ⟨s, []⟩).2.inner rest
    { later with events := event take b act s :: later.events }

section Invariant

-- What holds of the builder at the start and is kept by every act is assumed of each step.
variable {take} {p : β → Prop} (keep : ∀ b act s, p b → p (after take b act s))

include keep

theorem run_invariant (b : β) (s : σ) (acts : List α) (hb : p b) :
    p (run take b s acts).builder := by
  induction acts generalizing b s with
  | nil => exact hb
  | cons act rest ih => exact ih _ _ (keep b act s hb)

/-- What holds of the event of every act holds of every event. -/
theorem run_events {q : Event β α → Prop} (step : ∀ b act s, p b → q (event take b act s))
    (b : β) (s : σ) (acts : List α) (hb : p b) : ∀ e ∈ (run take b s acts).events, q e := by
  induction acts generalizing b s with
  | nil => simp [run]
  | cons act rest ih =>
    intro e he
    rcases List.mem_cons.mp he with rfl | he
    · exact step b act s hb
    · exact ih _ _ (keep b act s hb) e he

/-- The rest of a run is a run. -/
theorem run_rest {b : β} {s : σ} {acts : List α} {pre post : List (Event β α)} (hb : p b)
    (split : (run take b s acts).events = pre ++ post) :
    ∃ b' s' rest, p b' ∧ (run take b' s' rest).events = post := by
  induction acts generalizing b s pre with
  | nil =>
    have h : pre ++ post = [] := split.symm
    exact ⟨b, s, [], hb, (List.append_eq_nil_iff.mp h).2.symm⟩
  | cons act rest ih =>
    cases pre with
    | nil => exact ⟨b, s, act :: rest, hb, split⟩
    | cons e pre => exact ih (keep b act s hb) (List.cons.inj split).2

/-- As long as acts leave the builder as it is, the next one meets it unchanged. -/
theorem run_meets {q : Event β α → Prop}
    (still : ∀ b act s, p b → q (event take b act s) → after take b act s = b)
    {b : β} {s : σ} {acts : List α} {e : Event β α} {mid post : List (Event β α)} (hb : p b)
    (split : (run take b s acts).events = mid ++ e :: post) (kept : ∀ f ∈ mid, q f) :
    e.before = b := by
  induction acts generalizing b s mid with
  | nil => simp [run] at split
  | cons act rest ih =>
    cases mid with
    | nil => exact (List.cons.inj split).1 ▸ rfl
    | cons f mid =>
      obtain ⟨rfl, later⟩ := List.cons.inj split
      rw [ih (keep b act s hb) later fun g hg => kept g (List.mem_cons_of_mem _ hg)]
      exact still b act s hb (kept _ (List.mem_cons_self ..))

/-- If no act loses or makes up anything, no run does: what was pending and what came in is what
went out and what is pending. -/
theorem run_conserve {τ : Type} {pending : β → List τ} {given delivered : Event β α → List τ}
    (step : ∀ b act s, p b → pending b ++ given (event take b act s) =
      delivered (event take b act s) ++ pending (after take b act s))
    (b : β) (s : σ) (acts : List α) (hb : p b) :
    pending b ++ (run take b s acts).events.flatMap given =
      (run take b s acts).events.flatMap delivered ++ pending (run take b s acts).builder := by
  induction acts generalizing b s with
  | nil => simp [run]
  | cons act rest ih =>
    have later := ih _ (take b act ⟨s, []⟩).2.inner (keep b act s hb)
    simp only [run, List.flatMap_cons]
    rw [← List.append_assoc, step b act s hb, List.append_assoc, later, List.append_assoc]

end Invariant

end Access

end Rebac
