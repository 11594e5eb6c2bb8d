import Mathlib.Data.Set.List
import Rebac.Json.Record
import Rebac.Proofs.Json.Field

/-!
# Records there and back

What the reading of a field, a list and a choice finds, and what it means that a written form and
its reading belong together: what is written is read back, and of all the ways to write a value
that are read, one is normal, which is the way in which it is written.
-/

namespace Rebac.Json

variable {α : Type}

/-! ## Fields -/

theorem str?_eq_some {j : Json} {text : String} : j.str? = some text ↔ j = .str text := by
  cases j <;> simp [str?]

theorem bind_str?_eq_some {j : Option Json} {text : String} :
    j.bind str? = some text ↔ j = some (.str text) := by
  cases j <;> simp [str?_eq_some]

namespace Fields

variable {f : Fields} {name : String} {read : Json → Option α} {a : α}

theorem required?_eq_some :
    f.required? name read = some a ↔
      ∃ j, Keyed.find? f.values name = some j ∧ read j = some a :=
  Option.bind_eq_some_iff

theorem required?_str {text : String} :
    f.required? name str? = some text ↔ Keyed.find? f.values name = some (.str text) :=
  bind_str?_eq_some

/-- A field with a fallback has it where nothing is given. Null is a value as any other. -/
theorem defaulted?_eq_some {fallback : α} :
    f.defaulted? name fallback read = some a ↔
      (∃ j, Keyed.find? f.values name = some j ∧ read j = some a) ∨
        (Keyed.find? f.values name = none ∧ a = fallback) := by
  unfold defaulted?
  cases Keyed.find? f.values name with
  | none => simp [eq_comm]
  | some j => simp

/-- A field that may be null may be left out too. -/
theorem nullable?_eq_some {value : Option α} :
    f.nullable? name read = some value ↔
      (∃ j a, Keyed.find? f.values name = some j ∧ j ≠ .null ∧ read j = some a ∧
          value = some a) ∨
        ((Keyed.find? f.values name = none ∨ Keyed.find? f.values name = some .null) ∧
          value = none) := by
  unfold nullable?
  cases Keyed.find? f.values name with
  | none => simp [eq_comm]
  | some j => cases j <;> simp [eq_comm]

/-- A text that may be null is a text, or it is null or left out. -/
theorem nullable?_str {text : Option String} :
    f.nullable? name str? = some text ↔
      (∃ s, Keyed.find? f.values name = some (.str s) ∧ text = some s) ∨
        ((Keyed.find? f.values name = none ∨ Keyed.find? f.values name = some .null) ∧
          text = none) := by
  rw [nullable?_eq_some]
  refine or_congr_left ⟨?_, ?_⟩
  · rintro ⟨j, s, given, -, read, said⟩
    exact ⟨s, str?_eq_some.mp read ▸ given, said⟩
  · rintro ⟨s, given, said⟩
    exact ⟨.str s, s, given, nofun, rfl, said⟩

end Fields

/-! ## Lists and choices -/

theorem list?_eq_some {read : Json → Option α} {j : Json} {as : List α} :
    list? read j = some as ↔
      ∃ js, j = .arr js ∧ List.Forall₂ (fun j a => read j = some a) js as := by
  cases j with
  | arr js => simp [list?, Shape.mapM_eq_some_iff_forall₂]
  | null | bool | int | real | str | obj => simp [list?]

/-- A choice is read from its name, and from an object that maps the name to null. -/
theorem choice?_eq_some {choices : List (String × α)} {label : α → String}
    (labelled : ∀ n a, Keyed.find? choices n = some a ↔ n = label a) {j : Json} {a : α} :
    choice? choices j = some a ↔ j = .str (label a) ∨ j = .obj [(label a, .null)] := by
  unfold choice?
  split
  · simp [labelled]
  · simp [labelled]
  next noName noObject =>
    simp only [reduceCtorEq, false_iff, not_or]
    exact ⟨fun same => noName _ same, fun same => noObject _ same⟩

namespace Fields

variable {f : Fields} {name : String} {read : Json → Option α} {as : List α}

theorem required?_list :
    f.required? name (list? read) = some as ↔
      ∃ js, Keyed.find? f.values name = some (.arr js) ∧
        List.Forall₂ (fun j a => read j = some a) js as := by
  simp only [required?_eq_some, list?_eq_some]
  constructor
  · rintro ⟨_, given, js, rfl, each⟩
    exact ⟨js, given, each⟩
  · rintro ⟨js, given, each⟩
    exact ⟨_, given, js, rfl, each⟩

/-- A list that may be left out: null does not stand for the default. -/
theorem defaulted?_list {fallback : List α} :
    f.defaulted? name fallback (list? read) = some as ↔
      (∃ js, Keyed.find? f.values name = some (.arr js) ∧
          List.Forall₂ (fun j a => read j = some a) js as) ∨
        (Keyed.find? f.values name = none ∧ as = fallback) := by
  rw [defaulted?_eq_some, ← required?_list, required?_eq_some]

/-- A choice is its label, or an object with the label alone and null under it. -/
theorem required?_choice {choices : List (String × α)} {label : α → String}
    (labelled : ∀ n a, Keyed.find? choices n = some a ↔ n = label a) {a : α} :
    f.required? name (choice? choices) = some a ↔
      Keyed.find? f.values name = some (.str (label a)) ∨
        Keyed.find? f.values name = some (.obj [(label a, .null)]) := by
  simp only [required?_eq_some, choice?_eq_some labelled]
  cases Keyed.find? f.values name <;> simp

end Fields

/-! ## Written forms -/

/-- An array whose items are all of a kind. -/
def IsListOf (IsItem : Json → Prop) (j : Json) : Prop :=
  ∃ js, j = .arr js ∧ ∀ item ∈ js, IsItem item

/-- A written form, its reading and its normal form belong together. -/
structure RoundTrips (write : α → Json) (read? : Json → Option α) (IsNormal : Json → Prop) :
    Prop where
  /-- What is written is read as what it was written from. -/
  read_write (a : α) : read? (write a) = some a
  /-- What is written is normal, -/
  normal (a : α) : IsNormal (write a)
  /-- and nothing else is. -/
  exists_of_normal {j : Json} (normal : IsNormal j) : ∃ a, write a = j

namespace RoundTrips

variable {write : α → Json} {read? : Json → Option α} {IsNormal : Json → Prop}

/-- No two values have the same record. -/
theorem write_inj (form : RoundTrips write read? IsNormal) {a b : α} :
    write a = write b ↔ a = b := by
  refine ⟨fun same => ?_, congrArg write⟩
  have read := form.read_write a
  rw [same, form.read_write b] at read
  exact (Option.some.inj read).symm

/-- Of the values that are read alike, one is normal. -/
theorem isNormal_iff (form : RoundTrips write read? IsNormal) {j : Json} {a : α}
    (read : read? j = some a) : IsNormal j ↔ j = write a := by
  constructor
  · intro normal
    obtain ⟨b, rfl⟩ := form.exists_of_normal normal
    rw [form.read_write b] at read
    exact congrArg write (Option.some.inj read)
  · rintro rfl
    exact form.normal a

/-- A list is written as an array, item by item. -/
theorem list (form : RoundTrips write read? IsNormal) :
    RoundTrips (fun as => .arr (as.map write)) (list? read?) (IsListOf IsNormal) where
  read_write as := by
    refine list?_eq_some.mpr ⟨_, rfl, ?_⟩
    rw [List.forall₂_map_left_iff]
    exact List.forall₂_same.mpr fun a _ => form.read_write a
  normal as := by
    refine ⟨_, rfl, fun item mem => ?_⟩
    obtain ⟨a, -, rfl⟩ := List.mem_map.mp mem
    exact form.normal a
  exists_of_normal := by
    rintro _ ⟨js, rfl, normal⟩
    have written : js ∈ Set.range (List.map write) := by
      rw [Set.range_list_map]
      exact fun item mem => form.exists_of_normal (normal item mem)
    obtain ⟨as, rfl⟩ := written
    exact ⟨as, rfl⟩

end RoundTrips

end Rebac.Json
