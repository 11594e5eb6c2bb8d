import Rebac.Naming.Reference

/-!
# References read back

A reference to an entity of a type whose canonical name has no colon is divided at the colon after
the type, whatever the id holds. So such references differ as soon as the types or the ids differ.
-/

namespace Rebac.Naming

theorem splitAtColon_append {before : List Char} (plain : ':' ∉ before) (after : List Char) :
    splitAtColon (before ++ ':' :: after) = some (before, after) := by
  induction before with
  | nil => simp [splitAtColon]
  | cons c before ih =>
    obtain ⟨colon, rest⟩ := not_or.mp (mt List.mem_cons.mpr plain)
    rw [List.cons_append, splitAtColon, if_neg (Ne.symm colon), ih rest]
    rfl

variable {typeName id : String}

theorem splitAtColon_qualify (plain : ':' ∉ (canonical typeName).toList) (id : String) :
    splitAtColon (qualify typeName id).toList =
      some ((canonical typeName).toList, id.toList) := by
  have chars : (qualify typeName id).toList =
      (canonical typeName).toList ++ ':' :: id.toList := by
    simp [qualify]
  rw [chars, splitAtColon_append plain]

/-- Equal references name the same type and the same id. -/
theorem qualify_inj {typeName' id' : String} (plain : ':' ∉ (canonical typeName).toList)
    (plain' : ':' ∉ (canonical typeName').toList)
    (same : qualify typeName id = qualify typeName' id') :
    canonical typeName = canonical typeName' ∧ id = id' := by
  have parts := splitAtColon_qualify plain id
  rw [same, splitAtColon_qualify plain' id', Option.some.injEq, Prod.mk.injEq] at parts
  exact ⟨(String.toList_inj.mp parts.1).symm, (String.toList_inj.mp parts.2).symm⟩

/-- Only a reference with an id is divided. -/
theorem splitReference_qualify (plain : ':' ∉ (canonical typeName).toList)
    (named : canonical typeName ≠ "") (id : String) :
    splitReference (qualify typeName id) =
      if id = "" then none else some (canonical typeName, id) := by
  rw [splitReference, splitAtColon_qualify plain]
  have typeChars : (canonical typeName).toList ≠ [] := mt String.toList_eq_nil_iff.mp named
  obtain ⟨c, before, type⟩ := List.exists_cons_of_ne_nil typeChars
  by_cases empty : id = ""
  · subst empty
    simp [type]
  · obtain ⟨d, after, chars⟩ := List.exists_cons_of_ne_nil (mt String.toList_eq_nil_iff.mp empty)
    rw [if_neg empty, type, chars]
    simp only [← type, ← chars, String.ofList_toList]

end Rebac.Naming
