import Rebac.Proofs.Bindings.Plan
import Rebac.Proofs.Naming.Reference

/-!
# Entities of the bindings

The bindings of a type hold the name from which its references are made at run time. A plan accepts
only names that make identifiers and are canonical, so no colon stands before the one that divides a
reference: it is read back as the type of the schema and the id, and no two types share one.
-/

namespace Rebac.Bindings

/-- The entity that the bindings of a type make of an id. -/
def TypePlan.entity (p : TypePlan) (id : String) : Naming.Entity := ⟨p.entityName, id⟩

namespace TypePlanned

variable {p : TypePlan}

theorem isIdentifier_entityName (planned : TypePlanned p) : isIdentifier p.entityName = true :=
  planned.entityName ▸ isIdentifier_of_type planned.identifier

/-- The name that is written for a type is the Pascal form of its name in the schema. Its canonical
form, which references are made with, is that name again. -/
theorem canonical_entityName (planned : TypePlanned p) :
    Naming.canonical p.entityName = p.definition.name :=
  planned.entityName ▸ planned.canonical

theorem name_ne_empty (planned : TypePlanned p) : p.definition.name ≠ "" := by
  intro unnamed
  have word := planned.isIdentifier_entityName
  rw [planned.entityName, unnamed] at word
  exact absurd word (by decide)

theorem isSnake_of_mem_name (planned : TypePlanned p) {c : Char}
    (mem : c ∈ p.definition.name.toList) : Naming.isSnake c = true := by
  rw [← planned.canonical_entityName] at mem
  exact Naming.isSnake_of_mem_canonical (of_isIdentifier planned.isIdentifier_entityName).2 mem

/-- No type that has bindings has a colon in its name, as its name is in snake case. -/
theorem colon_not_mem_name (planned : TypePlanned p) : ':' ∉ p.definition.name.toList :=
  fun colon => absurd (planned.isSnake_of_mem_name colon) (by decide)

theorem newline_not_mem_name (planned : TypePlanned p) : '\n' ∉ p.definition.name.toList :=
  fun newline => absurd (planned.isSnake_of_mem_name newline) (by decide)

theorem reference_entity (planned : TypePlanned p) (id : String) :
    (p.entity id).reference = p.definition.name ++ ":" ++ id :=
  congrArg (· ++ ":" ++ id) planned.canonical_entityName

/-- A reference is divided at its first colon, which is the one behind the type. An id may hold any
characters, but an empty one makes no reference. -/
theorem splitReference_entity (planned : TypePlanned p) (id : String) :
    Naming.splitReference (p.entity id).reference =
      if id = "" then none else some (p.definition.name, id) := by
  have name : Naming.canonical p.entityName = p.definition.name := planned.canonical_entityName
  have plain : ':' ∉ (Naming.canonical p.entityName).toList := name ▸ planned.colon_not_mem_name
  have nonempty : Naming.canonical p.entityName ≠ "" := name ▸ planned.name_ne_empty
  rw [← name]
  exact Naming.splitReference_qualify plain nonempty id

/-- Equal references name the same type of the schema and the same id. -/
theorem entity_reference_inj {q : TypePlan} {a b : String} (planned : TypePlanned p)
    (planned' : TypePlanned q) (same : (p.entity a).reference = (q.entity b).reference) :
    p.definition.name = q.definition.name ∧ a = b := by
  obtain ⟨name, id⟩ := Naming.qualify_inj
    (planned.canonical_entityName ▸ planned.colon_not_mem_name)
    (planned'.canonical_entityName ▸ planned'.colon_not_mem_name) same
  have typeName : p.definition.name = q.definition.name :=
    planned.canonical_entityName.symm.trans (name.trans planned'.canonical_entityName)
  exact ⟨typeName, id⟩

/-- Types of one name have one identifier. -/
theorem identifier_eq_of_name_eq {q : TypePlan} (planned : TypePlanned p)
    (planned' : TypePlanned q) (same : p.definition.name = q.definition.name) :
    p.identifier = q.identifier := by
  have identifier := planned.identifier
  rw [same, planned'.identifier] at identifier
  exact (Option.some.inj identifier).symm

end TypePlanned

/-- The identifiers of types differ, since they are among the items that were compared. -/
theorem nodup_identifiers {plans : List TypePlan} (nodup : (plans.flatMap (·.itemNames)).Nodup) :
    (plans.map (·.identifier)).Nodup := by
  have declared : (plans.map (·.identifier)).Sublist (plans.flatMap (·.itemNames)) := by
    clear nodup
    induction plans with
    | nil => exact .slnil
    | cons p rest ih =>
      have first : [p.identifier].Sublist p.itemNames :=
        List.singleton_sublist.mpr List.mem_cons_self
      exact first.append ih
  exact declared.nodup nodup

end Rebac.Bindings
