import Rebac.Text.Affix

/-!
# Texts taken apart at an end

What stands behind the beginning of a text is all that there is behind it, and what stands before
its end all that there is before it.
-/

namespace Rebac.Text

theorem beginsWith_append (lead rest : String) : beginsWith (lead ++ rest) lead = true := by
  simp [beginsWith]

theorem beginsWith_iff {text lead : String} :
    beginsWith text lead = true ↔ ∃ rest, text = lead ++ rest := by
  rw [beginsWith, List.isPrefixOf_iff_prefix]
  constructor
  · rintro ⟨rest, chars⟩
    exact ⟨String.ofList rest, by rw [← String.toList_inj, String.toList_append, ← chars,
      String.toList_ofList]⟩
  · rintro ⟨rest, rfl⟩
    exact ⟨rest.toList, String.toList_append.symm⟩

theorem beginsWith_append_left {text lead : String} (begins : beginsWith text lead = true)
    (rest : String) : beginsWith (text ++ rest) lead = true := by
  obtain ⟨behind, rfl⟩ := beginsWith_iff.mp begins
  exact beginsWith_iff.mpr ⟨behind ++ rest, String.append_assoc⟩

/-- A text begins otherwise when a character at its beginning is another one. -/
theorem beginsWith_append_of_differ {front lead : String}
    (differ : (front.toList.zip lead.toList).any (fun p => p.1 != p.2) = true) (rest : String) :
    beginsWith (front ++ rest) lead = false := by
  rw [beginsWith, String.toList_append]
  generalize front.toList = cs, lead.toList = ds at differ
  induction cs generalizing ds with
  | nil => cases differ
  | cons c cs ih =>
    cases ds with
    | nil => cases differ
    | cons d ds =>
      rw [List.zip_cons_cons, List.any_cons, Bool.or_eq_true] at differ
      rw [List.cons_append, List.isPrefixOf]
      rcases differ with other | later
      · rw [beq_false_of_ne (Ne.symm (bne_iff_ne.mp other)), Bool.false_and]
      · rw [ih ds later, Bool.and_false]

theorem endsWith_iff {text tail : String} :
    endsWith text tail = true ↔ ∃ front, text = front ++ tail := by
  rw [endsWith, List.isSuffixOf_iff_suffix]
  constructor
  · rintro ⟨front, chars⟩
    exact ⟨String.ofList front, by rw [← String.toList_inj, String.toList_append, ← chars,
      String.toList_ofList]⟩
  · rintro ⟨front, rfl⟩
    exact ⟨front.toList, String.toList_append.symm⟩

theorem endsWith_append {text tail : String} (front : String) (ends : endsWith text tail = true) :
    endsWith (front ++ text) tail = true := by
  obtain ⟨rest, rfl⟩ := endsWith_iff.mp ends
  exact endsWith_iff.mpr ⟨front ++ rest, (String.append_assoc).symm⟩

theorem afterLead?_append (lead rest : String) : afterLead? (lead ++ rest) lead = some rest := by
  rw [afterLead?, if_pos (beginsWith_append lead rest), String.toList_append,
    ← String.length_toList, List.drop_left, String.ofList_toList]

/-- A text that begins otherwise has nothing behind the lead. -/
theorem afterLead?_append_of_differ {front lead : String}
    (differ : (front.toList.zip lead.toList).any (fun p => p.1 != p.2) = true) (rest : String) :
    afterLead? (front ++ rest) lead = none := by
  rw [afterLead?, beginsWith_append_of_differ differ]
  rfl

/-- What is behind a lead is the rest of the text, and there is only one. -/
theorem afterLead?_eq_some {text lead rest : String} :
    afterLead? text lead = some rest ↔ text = lead ++ rest := by
  constructor
  · intro found
    simp only [afterLead?] at found
    split at found
    next begins =>
      obtain ⟨behind, chars⟩ := List.isPrefixOf_iff_prefix.1 begins
      rw [Option.some.injEq, ← chars, ← String.length_toList, List.drop_left] at found
      rw [← String.toList_inj, String.toList_append, ← chars, ← found, String.toList_ofList]
    next => cases found
  · rintro rfl
    exact afterLead?_append lead rest

theorem beforeTail?_append (front tail : String) :
    beforeTail? (front ++ tail) tail = some front := by
  have ends : endsWith (front ++ tail) tail = true := endsWith_iff.mpr ⟨front, rfl⟩
  rw [beforeTail?, if_pos ends, String.length_append, Nat.add_sub_cancel, String.toList_append,
    ← String.length_toList, List.take_left, String.ofList_toList]

theorem endsWith_of_beforeTail? {text tail front : String}
    (found : beforeTail? text tail = some front) : endsWith text tail = true := by
  unfold beforeTail? at found
  split at found
  · assumption
  · cases found

theorem beforeTail?_eq_none {text tail : String} :
    beforeTail? text tail = none ↔ endsWith text tail = false := by
  unfold beforeTail?
  split <;> simp_all

end Rebac.Text
