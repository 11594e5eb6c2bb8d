import Rebac.Access.Permissions
import Rebac.Proofs.Engine.Allowed

/-!
# Agreement of queries

Over a recorded engine that answers, a single check, a batch of checks, the lists of users and of
objects, the validations and the list of members all tell the same of which relationships hold:
those that were allowed.
-/

namespace Rebac.Access

/-- A call that gets a value, and is not cancelled, gives it. -/
theorem attempt_of_value {σ α : Type} {call : σ → Engine.Answer α × σ} {s : σ} {a : α}
    (given : (call s).1 = .value a) : attempt false call s = (.ok a, (call s).2) := by
  rw [attempt, if_neg Bool.false_ne_true]
  revert given
  rcases call s with ⟨answer, after⟩
  rintro rfl
  rfl

end Rebac.Access

namespace Rebac.Engine.Recorded.Allows

open Access
open Naming (Entity typeToken)

variable {s : Recorded} {granted : List Relationship}

theorem validate_eq (allows : s.Allows granted) (c : Checks) :
    (c.validate recorded false s).1.1 = .ok (c.pending.map fun item =>
      ⟨decide (item.relationship ∈ granted), item.tuple⟩) := by
  rw [Checks.validate]
  split
  next empty => rw [List.isEmpty_iff.mp empty, List.map_nil]
  next =>
    simp only [attempt_of_value (allows.checkBatch_eq c.pending), List.length_map, if_true,
      List.zipWith_map_right, List.zipWith_self]

theorem validateSingle_eq (allows : s.Allows granted) (c : Checks) :
    (c.validateSingle recorded false s).1.1 =
      .ok (c.pending.head?.any fun item => decide (item.relationship ∈ granted)) := by
  rw [Checks.validateSingle]
  cases c.pending with
  | nil => rfl
  | cons first rest =>
    simp only [attempt_of_value (allows.check_eq first)]
    rfl

/-- A list of accessors has the users who are allowed the relation. -/
theorem lists_accessors (allows : s.Allows granted) (object : Entity)
    (relation accessorType : String) :
    ∃ references,
      (listAccessors recorded false object relation accessorType s).1 = .ok references ∧
        Lists references (typeToken accessorType)
          fun user => ⟨object.reference, relation, user⟩ ∈ granted := by
  obtain ⟨users, given, lists⟩ :=
    allows.lists_users object.reference relation (typeToken accessorType)
  exact ⟨users, by rw [listAccessors, attempt_of_value given], lists⟩

/-- The first question about an accessor that is named by its id. -/
theorem validateSingle_can (allows : s.Allows granted) (accessor : Entity) (relation : String)
    (resource : Entity) (context : Option Condition.Context) :
    ((({} : Checks).can accessor relation resource context).validateSingle recorded false s).1.1 =
      .ok (decide (⟨resource.reference, relation, accessor.reference⟩ ∈ granted)) :=
  allows.validateSingle_eq _

end Rebac.Engine.Recorded.Allows

namespace Rebac.Access

open Engine (Lists Recorded Request recorded)
open Naming (Entity)

/-- After calls that allow relationships, a recorded engine that answers says yes to a check, and to
one at any place of a batch, where the relationship was allowed, whatever values come with it. The
users of an object and the objects of a user are those of the type for which it would say yes, in
increasing order. So the first question alone is answered as it is among all, and the members of a
group are those for whom a question about the membership is answered yes. -/
theorem recorded_queries_agree (log : List Request) (stored : List Tuple)
    (granted : List Relationship) :
    let s := Recorded.allowing log stored granted
    (∀ item, (recorded.check item s).1 = .value (decide (item.relationship ∈ granted))) ∧
    (∀ items, (recorded.checkBatch items s).1 =
      .value (items.map fun item => decide (item.relationship ∈ granted))) ∧
    (∀ object relation type, ∃ users, (recorded.listUsers object relation type s).1 =
      .value users ∧ Lists users type fun user => ⟨object, relation, user⟩ ∈ granted) ∧
    (∀ user relation type, ∃ objects, (recorded.listObjects user relation type s).1 =
      .value objects ∧ Lists objects type fun object => ⟨object, relation, user⟩ ∈ granted) ∧
    (∀ c : Checks, ∃ outcomes, (c.validate recorded false s).1.1 = .ok outcomes ∧
      outcomes.map (·.tuple) = c.pending.map (·.tuple) ∧
      (c.validateSingle recorded false s).1.1 = .ok (outcomes.head?.any (·.allowed))) ∧
    ∀ (group : Entity) (memberType : String) (context : Option Condition.Context), ∃ members,
      (listMembers recorded false group memberType s).1 = .ok members ∧
      members.Pairwise (· < ·) ∧
      ∀ x, x ∈ members ↔ ∃ id, x = Entity.reference ⟨memberType, id⟩ ∧
        ((({} : Checks).can ⟨memberType, id⟩ memberRelation group context).validateSingle
          recorded false s).1.1 = .ok true := by
  intro s
  have allows : s.Allows granted := Recorded.allows_allowing log stored granted
  refine ⟨allows.check_eq, allows.checkBatch_eq, allows.lists_users, allows.lists_objects,
    fun c => ⟨_, allows.validate_eq c, ?_, ?_⟩, fun group memberType context => ?_⟩
  · rw [List.map_map]
    rfl
  · rw [allows.validateSingle_eq, List.head?_map, Option.any_map]
  · obtain ⟨members, given, lists⟩ := allows.lists_accessors group memberRelation memberType
    refine ⟨members, given, lists.increasing, fun x => ?_⟩
    simp only [lists.mem_iff, allows.validateSingle_can, Except.ok.injEq, decide_eq_true_eq]
    constructor
    · rintro ⟨⟨id, rfl⟩, member⟩
      exact ⟨id, rfl, member⟩
    · rintro ⟨id, rfl, member⟩
      exact ⟨⟨id, rfl⟩, member⟩

end Rebac.Access
