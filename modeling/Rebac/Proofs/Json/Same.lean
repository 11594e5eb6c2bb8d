import Rebac.Json.Basic
import Rebac.Proofs.Keyed

/-!
# Equality of values

Equality looks members up by name, so it holds between objects that list the same members in
different orders, if no name stands twice in them or in the values below them.
-/

namespace Rebac.Json

theorem membersWithin_eq_true {members others : List (String × Json)} :
    membersWithin members others = true ↔
      ∀ m ∈ members, ∃ j, Keyed.find? others m.1 = some j ∧ m.2.same j = true := by
  induction members with
  | nil => simp [membersWithin]
  | cons head rest ih =>
    obtain ⟨name, j⟩ := head
    rw [membersWithin, Bool.and_eq_true, ih, List.forall_mem_cons]
    refine and_congr_left fun _ => ?_
    cases Keyed.find? others name <;> simp

/-- Objects with the same members are equal, in whatever order they list them. -/
theorem same_obj_of_perm {members others : List (String × Json)} (perm : members.Perm others)
    (nodup : (Keyed.keys members).Nodup) (self : ∀ m ∈ members, m.2.same m.2 = true) :
    (obj members).same (obj others) = true := by
  have within : membersWithin members others = true := by
    refine membersWithin_eq_true.mpr fun m mem => ⟨m.2, ?_, self m mem⟩
    have nodup' : (Keyed.keys others).Nodup := (perm.map Prod.fst).nodup_iff.mp nodup
    obtain ⟨place, found⟩ := List.mem_iff_getElem?.mp (perm.mem_iff.mp mem)
    exact Keyed.find?_of_getElem? nodup' found
  rw [same, within, perm.length_eq, beq_self_eq_true]
  rfl

theorem keys_settledMembers (members : List (String × Json)) :
    Keyed.keys (settledMembers members) = Keyed.keys members := by
  induction members with
  | nil => rfl
  | cons head rest ih =>
    have keys : Keyed.keys (settledMembers (head :: rest)) =
        head.1 :: Keyed.keys (settledMembers rest) := rfl
    rw [keys, ih]
    rfl

/-- In a settled object no name stands twice, and the values are settled. -/
theorem settled_obj {members : List (String × Json)}
    (settled : (obj members).settled = obj members) :
    (Keyed.keys members).Nodup ∧ settledMembers members = members := by
  rw [Json.settled, obj.injEq] at settled
  have nodup : (Keyed.keys members).Nodup := by
    rw [← settled]
    exact Keyed.nodup_keys_ofList _
  refine ⟨nodup, ?_⟩
  rwa [Keyed.ofList_of_nodup (by rwa [keys_settledMembers])] at settled

mutual

/-- A settled value is equal to itself. -/
theorem same_self : (j : Json) → j.settled = j → j.same j = true
  | .null, _ => rfl
  | .bool b, _ => beq_self_eq_true b
  | .int i, _ => beq_self_eq_true i
  | .real x, _ => by simp [same, Decimal.Binary64.same]
  | .str s, _ => beq_self_eq_true s
  | .arr items, settled => sameItems_self items (arr.inj settled)
  | .obj members, settled => by
    obtain ⟨nodup, values⟩ := settled_obj settled
    exact same_obj_of_perm (.refl members) nodup (same_self_of_mem members values)

theorem sameItems_self : (items : List Json) → settledItems items = items →
    sameItems items items = true
  | [], _ => rfl
  | j :: rest, settled => by
    rw [sameItems, Bool.and_eq_true]
    obtain ⟨first, later⟩ := List.cons.inj settled
    exact ⟨same_self j first, sameItems_self rest later⟩

theorem same_self_of_mem : (members : List (String × Json)) → settledMembers members = members →
    ∀ m ∈ members, m.2.same m.2 = true
  | [], _, _, mem => by cases mem
  | (name, j) :: rest, settled, m, mem => by
    obtain ⟨first, later⟩ := List.cons.inj settled
    rcases List.mem_cons.mp mem with rfl | mem
    · exact same_self j (Prod.mk.inj first).2
    · exact same_self_of_mem rest later m mem

end

end Rebac.Json
