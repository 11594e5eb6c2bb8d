import Mathlib.Data.List.DropRight
import Rebac.Text.Affix
import Rebac.Text.Blank

/-!
# Texts trimmed at an end

Trimming takes away characters of one kind only, and as many of them as there are. So what it leaves
has none of them where it was trimmed, and a text without them there is left as it is.
-/

namespace Rebac.Text

variable {p : Char → Bool} {s : String}

theorem toList_dropEndWhile : (dropEndWhile p s).toList = s.toList.rdropWhile p :=
  String.toList_ofList

/-- What is left at the end is not of the kind that is taken away. -/
theorem getLast?_dropEndWhile : ∀ c ∈ (dropEndWhile p s).toList.getLast?, p c = false := by
  intro c last
  have first : (s.toList.reverse.dropWhile p).head? = some c := by
    rw [toList_dropEndWhile, List.rdropWhile, List.getLast?_reverse] at last
    exact last
  have kept := List.head?_dropWhile_not p s.toList.reverse
  rw [first] at kept
  simpa using kept

/-- What is taken away at the end is of one kind. -/
theorem eq_dropEndWhile_append (p : Char → Bool) (s : String) :
    ∃ rest, s = dropEndWhile p s ++ rest ∧ ∀ c ∈ rest.toList, p c = true := by
  refine ⟨String.ofList (s.toList.rtakeWhile p), ?_, ?_⟩
  · rw [← String.toList_inj, String.toList_append, toList_dropEndWhile, String.toList_ofList,
      List.rdropWhile_append_rtakeWhile]
  · intro c mem
    rw [String.toList_ofList] at mem
    exact List.mem_rtakeWhile_imp mem

theorem dropEndWhile_eq_self (kept : ∀ c ∈ s.toList.getLast?, p c = false) :
    dropEndWhile p s = s := by
  rw [← String.toList_inj, toList_dropEndWhile, List.rdropWhile_eq_self_iff]
  intro nonempty
  simp [kept _ (List.getLast?_eq_some_getLast nonempty)]

/-- What is taken away at the end reaches into the first part only if all of the second is. -/
theorem dropEndWhile_append (p : Char → Bool) (lead rest : String) :
    dropEndWhile p (lead ++ rest) = dropEndWhile p lead ∨
      dropEndWhile p (lead ++ rest) = lead ++ dropEndWhile p rest := by
  simp only [← String.toList_inj, String.toList_append, toList_dropEndWhile, List.rdropWhile,
    List.reverse_append, List.dropWhile_append]
  split
  · exact .inl rfl
  · exact .inr (by rw [List.reverse_append, List.reverse_reverse])

/-- A beginning stays, unless all that is left is left of the beginning itself. -/
theorem beginsWith_dropEndWhile {lead : String} (begins : beginsWith s lead = true) :
    beginsWith (dropEndWhile p s) lead = true ∨ dropEndWhile p s = dropEndWhile p lead := by
  obtain ⟨rest, chars⟩ := List.isPrefixOf_iff_prefix.mp begins
  have parts : s = lead ++ String.ofList rest := by
    rw [← String.toList_inj, ← chars, String.toList_append, String.toList_ofList]
  rw [parts]
  rcases dropEndWhile_append p lead (String.ofList rest) with short | long
  · exact .inr short
  · rw [long]
    exact .inl (List.isPrefixOf_iff_prefix.mpr ⟨_, String.toList_append.symm⟩)

theorem trimWhile_eq_dropEndWhile (kept : ∀ c ∈ s.toList.head?, p c = false) :
    trimWhile p s = dropEndWhile p s := by
  have whole : s.toList.dropWhile p = s.toList := by
    cases chars : s.toList with
    | nil => rfl
    | cons c rest =>
      have outside : p c = false := kept c (by simp [chars])
      simp [outside]
  rw [trimWhile, whole, String.ofList_toList]

/-- A text is as trimmed just when neither of its ends would be taken away. -/
theorem trimWhile_eq_self_iff :
    trimWhile p s = s ↔
      (∀ c ∈ s.toList.head?, p c = false) ∧ ∀ c ∈ s.toList.getLast?, p c = false := by
  constructor
  · intro same
    have trimmed : (s.toList.dropWhile p).rdropWhile p = s.toList := by
      have chars := congrArg String.toList same
      rwa [trimWhile, toList_dropEndWhile, String.toList_ofList] at chars
    have short := (List.rdropWhile_prefix p (s.toList.dropWhile p)).length_le
    rw [trimmed] at short
    have opened := List.head?_dropWhile_not p s.toList
    rw [(List.dropWhile_suffix p).eq_of_length_le short] at opened
    constructor
    · intro c first
      rw [Option.mem_def.mp first] at opened
      simpa using opened
    · rw [trimWhile] at same
      rw [← same]
      exact getLast?_dropEndWhile
  · rintro ⟨opened, closed⟩
    rw [trimWhile_eq_dropEndWhile opened, dropEndWhile_eq_self closed]

end Rebac.Text
