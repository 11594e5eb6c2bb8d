import Rebac.Proofs.Access.Checks
import Rebac.Proofs.Access.Mutation

/-!
# Continuations

A call that goes on with an earlier accessor names the user of the last pending write, or of the
last pending question, in every state that a run reaches. Nothing else is ever remembered.
-/

namespace Rebac.Access

namespace Mutation

/-- Whether a call writes nothing by itself: a revocation, or grants to nobody. -/
def Call.grantsNothing : Call → Bool
  | .revoke .. | .revokeMany .. => true
  | .addMany _ ids _ _ => ids.isEmpty
  | _ => false

variable {σ : Type} {m : Mutation}

/-- A continuation on some pending writes adds a tuple of the user of the last. -/
theorem apply_continued (h : m.Remembers) {c : Call} {k : Call.Continued}
    (asked : c.continued? = some k) {last : Tuple} (pending : m.writes.getLast? = some last) :
    m.apply c = .ok { m with
      writes := m.writes ++ [⟨last.user, k.relation, k.resource.reference, k.condition⟩]
      accessor := some last.user } := by
  have named : lastUser? m.writes = some last.user := by simp [lastUser?, pending]
  rw [apply_eq h, asked, named]
  cases c <;> cases asked <;> simp [extended, Call.writes, Call.deletes, lastUser?]

theorem apply_grantsNothing (h : m.Remembers) {c : Call} (nothing : c.grantsNothing) :
    m.apply c = .ok { m with deletes := m.deletes ++ c.deletes } := by
  have accessor : m.accessor = lastUser? m.writes := h
  have writes : c.writes (lastUser? m.writes) = [] := by
    cases c <;> simp_all [Call.grantsNothing, Call.writes]
  have asked : c.continued? = none := by
    cases c <;> simp_all [Call.grantsNothing, Call.continued?]
  rw [apply_eq h, asked]
  simp only [writes, extended, List.append_nil]
  rw [← accessor]

/-- An act that fails changes nothing. -/
theorem take_error {engine : Engine σ} {act : Act} {s : σ} {e : Failure} {after : Mutation}
    (error : (take engine m act s).1 = (.error e, after)) : after = m := by
  cases act with
  | call c =>
    simp only [take] at error
    split at error <;> cases error
    rfl
  | commit cancelled =>
    simp only [take] at error
    rcases commit_cases m engine cancelled s with ⟨_, _, _, ok⟩ | ⟨_, _, same⟩
    · rw [ok] at error
      cases error
    · rw [same] at error
      cases error
      rfl
  | withoutTransactions => cases error

end Mutation

/-- In every state that a run of a mutation or of checks reaches, the remembered accessor is the
user of the last pending write or question. So a continuation is about that user, it fails exactly
when nothing is pending, and neither revocations nor failures change whom it names. -/
theorem run_remembers_last_pending {σ : Type} (engine : Engine σ) (s : σ) :
    (∀ transactional acts,
      let m := (run (Mutation.take engine.observed) { transactional } s acts).builder
      m.accessor = m.writes.getLast?.map (·.user) ∧ (m.accessor = none ↔ m.writes = []) ∧
      (∀ c k, c.continued? = some k →
        (m.writes = [] → m.apply c = .error (.nobodyRemembered k.call)) ∧
        ∀ last, m.writes.getLast? = some last → m.apply c = .ok { m with
          writes := m.writes ++ [⟨last.user, k.relation, k.resource.reference, k.condition⟩]
          accessor := some last.user }) ∧
      (∀ c, c.grantsNothing → m.apply c = .ok { m with deletes := m.deletes ++ c.deletes }) ∧
      ∀ act s' e after, (m.take engine act s').1 = (.error e, after) → after = m) ∧
    (∀ acts,
      let c := (run (Checks.take engine.observed) {} s acts).builder
      c.accessor = c.pending.getLast?.map (·.user) ∧ (c.accessor = none ↔ c.pending = []) ∧
      (∀ call k, call.continued? = some k →
        (c.pending = [] → c.apply call = .error (.nobodyRemembered k.call)) ∧
        ∀ last, c.pending.getLast? = some last → c.apply call = .ok {
          pending := c.pending ++ [⟨k.resource.reference, k.relation, last.user, k.context⟩]
          accessor := some last.user }) ∧
      ∀ act s' e after, (c.take engine act s').1 = (.error e, after) → after = c) := by
  refine ⟨fun transactional acts => ?_, fun acts => ?_⟩
  · intro m
    have remembers : m.Remembers := run_invariant (p := Mutation.Remembers)
      (fun _ act s h => (Mutation.step_take engine h act s).remembers h) _ s acts rfl
    have accessor : m.accessor = m.writes.getLast?.map (·.user) := remembers
    refine ⟨accessor, by simp [accessor],
      fun c k asked => ⟨fun empty => ?_, fun last pending => ?_⟩,
      fun c nothing => Mutation.apply_grantsNothing remembers nothing,
      fun act s' e after error => Mutation.take_error error⟩
    · rw [Mutation.apply_eq remembers, asked, empty]
      rfl
    · exact Mutation.apply_continued remembers asked pending
  · intro c
    have remembers : c.Remembers := run_invariant (p := Checks.Remembers)
      (fun _ act s h => Checks.remembers_take engine.observed h act ⟨s, []⟩) _ s acts rfl
    have accessor : c.accessor = c.pending.getLast?.map (·.user) := remembers
    refine ⟨accessor, by simp [accessor], fun call k asked => ?_,
      fun act s' e after error => Checks.take_error remembers error⟩
    cases call with
    | ask => cases asked
    | askAlso verb relation resource context =>
      cases asked
      simp only [Checks.apply, Checks.continueWith_eq remembers]
      refine ⟨fun empty => by rw [empty]; rfl, fun last pending => ?_⟩
      simp [lastAsked?, pending, Checks.push]

end Rebac.Access
