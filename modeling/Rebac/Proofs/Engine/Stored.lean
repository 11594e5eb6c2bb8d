import Rebac.Engine.Recorded
import Rebac.Http.Client

/-!
# Stored relationships

Which relationships the recorded engine holds after a write, beside what a write means when each
tuple is changed on its own. The two agree exactly when no relationship is both written and deleted:
the recorded engine deletes first, so a relationship of both stays.
-/

namespace Rebac.Engine

/-- The relationships of tuples. -/
def relationships (tuples : List Tuple) : List Relationship := tuples.map (·.relationship)

@[simp]
theorem relationships_append (a b : List Tuple) :
    relationships (a ++ b) = relationships a ++ relationships b := List.map_append

theorem mem_relationships_filter (p : Relationship → Bool) (tuples : List Tuple)
    (r : Relationship) :
    r ∈ relationships (tuples.filter fun t => p t.relationship) ↔
      r ∈ relationships tuples ∧ p r = true := by
  have filtered : relationships (tuples.filter fun t => p t.relationship) =
      (relationships tuples).filter p := List.filter_map.symm
  rw [filtered, List.mem_filter]

namespace Recorded

/-- After a write all written relationships are stored, and of the earlier ones those that were not
deleted. -/
theorem mem_storedAfter (request : WriteRequest) (stored : List Tuple) (r : Relationship) :
    r ∈ relationships (storedAfter request stored) ↔
      (r ∈ relationships stored ∧ r ∉ relationships request.deletes) ∨
        r ∈ relationships request.writes := by
  have kept := mem_relationships_filter
    (fun r => !(request.deletes.map (·.relationship)).contains r) stored r
  rw [storedAfter, relationships_append, List.mem_append, kept]
  simp [relationships]

/-- A write that neither hangs nor fails is answered with its own tuples. -/
theorem write_ready {s : Recorded} (awake : s.hanging = false) (unscripted : s.failNext = none)
    (request : WriteRequest) :
    recorded.write request s =
      (.value ⟨request.writes, request.deletes⟩,
        { s.log (.write request) with stored := storedAfter request s.stored }) := by
  simp only [recorded, respond, awake, unscripted, Bool.false_eq_true, if_false]
  rfl

end Recorded

/-! ## Tuples changed one by one -/

/-- A change of one tuple. -/
inductive Change where
  | write (t : Tuple)
  | delete (t : Tuple)
deriving Repr

namespace Change

/-- The stored tuples after a change. -/
def apply (stored : List Tuple) : Change → List Tuple
  | .write t => stored ++ [t]
  | .delete t => stored.filter (·.relationship ≠ t.relationship)

/-- The tuples that a change writes and deletes. -/
def part : Change → List Tuple × List Tuple
  | .write t => ([t], [])
  | .delete t => ([], [t])

end Change

/-- The changes of a request, each of one tuple: the writes in order, then the deletes in order. -/
def WriteRequest.changes (request : WriteRequest) : List Change :=
  request.writes.map .write ++ request.deletes.map .delete

/-- A client that changes each tuple on its own sends these changes, in this order. -/
theorem parts_eq_changes {request : WriteRequest} (relaxed : request.transactional = false) :
    Http.Client.parts request = request.changes.map Change.part := by
  simp [Http.Client.parts, relaxed, WriteRequest.changes, Change.part, Function.comp_def]

theorem foldl_write (writes stored : List Tuple) :
    (writes.map Change.write).foldl Change.apply stored = stored ++ writes := by
  induction writes generalizing stored with
  | nil => simp
  | cons t writes ih =>
    rw [List.map_cons, List.foldl_cons, ih]
    simp [Change.apply]

theorem mem_foldl_delete (deletes stored : List Tuple) (r : Relationship) :
    r ∈ relationships ((deletes.map Change.delete).foldl Change.apply stored) ↔
      r ∈ relationships stored ∧ r ∉ relationships deletes := by
  induction deletes generalizing stored with
  | nil => simp [relationships]
  | cons d deletes ih =>
    have kept := mem_relationships_filter (· ≠ d.relationship) stored r
    rw [List.map_cons, List.foldl_cons, ih, Change.apply, kept, decide_eq_true_eq]
    simp only [relationships, List.map_cons, List.mem_cons, not_or, and_assoc]

/-- After the changes of a request the relationships are those stored before or written, without
those deleted. -/
theorem mem_changed (request : WriteRequest) (stored : List Tuple) (r : Relationship) :
    r ∈ relationships (request.changes.foldl Change.apply stored) ↔
      (r ∈ relationships stored ∨ r ∈ relationships request.writes) ∧
        r ∉ relationships request.deletes := by
  rw [WriteRequest.changes, List.foldl_append, mem_foldl_delete, foldl_write,
    relationships_append, List.mem_append]

/-- The recorded engine stores the same relationships as the changes of a request made one by one
exactly when the request writes none that it deletes. One that it both writes and deletes stays in
the recorded engine, and is gone after the changes one by one. -/
theorem recorded_write_agrees_iff_disjoint (s : Recorded) (writes deletes : List Tuple) :
    let request : WriteRequest := ⟨writes, deletes, false⟩
    let answer := recorded.write request { s with hanging := false, failNext := none }
    let changed := request.changes.foldl Change.apply s.stored
    answer.1 = .value ⟨writes, deletes⟩ ∧
    Http.Client.parts request = request.changes.map Change.part ∧
    ((∀ r, r ∈ relationships answer.2.stored ↔ r ∈ relationships changed) ↔
      ∀ r ∈ relationships writes, r ∉ relationships deletes) ∧
    ∀ r ∈ relationships writes, r ∈ relationships deletes →
      r ∈ relationships answer.2.stored ∧ r ∉ relationships changed := by
  intro request answer changed
  have ready : answer = (.value ⟨writes, deletes⟩, _) := Recorded.write_ready rfl rfl request
  have stored (r : Relationship) : r ∈ relationships answer.2.stored ↔
      (r ∈ relationships s.stored ∧ r ∉ relationships deletes) ∨ r ∈ relationships writes := by
    rw [ready]
    exact Recorded.mem_storedAfter request s.stored r
  have gone (r : Relationship) : r ∈ relationships changed ↔
      (r ∈ relationships s.stored ∨ r ∈ relationships writes) ∧ r ∉ relationships deletes :=
    mem_changed request s.stored r
  refine ⟨by rw [ready], parts_eq_changes rfl, ⟨fun agree r written deleted => ?_,
    fun disjoint r => ?_⟩, fun r written deleted => ?_⟩
  · exact ((gone r).mp ((agree r).mp ((stored r).mpr (.inr written)))).2 deleted
  · rw [stored, gone]
    constructor
    · rintro (⟨before, undeleted⟩ | written)
      · exact ⟨.inl before, undeleted⟩
      · exact ⟨.inr written, disjoint r written⟩
    · rintro ⟨before | written, undeleted⟩
      · exact .inl ⟨before, undeleted⟩
      · exact .inr written
  · exact ⟨(stored r).mpr (.inr written), fun h => ((gone r).mp h).2 deleted⟩

/-- A tuple that is added and revoked by one relaxed commit to an empty store stays in the recorded
engine, although it is gone when each tuple is changed on its own. -/
theorem recorded_write_keeps_revoked :
    let editor : Tuple := ⟨"user:alice", "editor", "form:1", none⟩
    let request : WriteRequest := ⟨[editor], [editor], false⟩
    ¬ ∀ r, r ∈ relationships (recorded.write request {}).2.stored ↔
      r ∈ relationships (request.changes.foldl Change.apply []) := by
  intro editor request agree
  have kept : editor.relationship ∈ relationships (recorded.write request {}).2.stored := by decide
  have gone : editor.relationship ∉ relationships (request.changes.foldl Change.apply []) := by
    decide
  exact gone ((agree _).mp kept)

end Rebac.Engine
