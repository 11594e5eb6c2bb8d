import Mathlib.Data.List.Basic
import Rebac.Access.Inspection
import Rebac.Access.Mutation
import Rebac.Engine.Recorded

/-!
# Accessors of an object

A query for all accessors of an object reads the tuples stored for its reference. The recorded
engine takes a reference that ends with a colon for the beginning of references. So the answer holds
the accessors of that object alone, whatever is stored, exactly where the id is not empty and does
not end with a colon itself.
-/

namespace Rebac.Access

open Engine (Recorded recorded)
open Naming (Entity)

/-! ## Values without repeats -/

/-- The values of a list, each once, in the order of their first places. -/
structure FirstSeen (values all : List String) : Prop where
  nodup : values.Nodup
  mem_iff (x : String) : x ∈ values ↔ x ∈ all
  order : values.Pairwise fun a b => all.idxOf a < all.idxOf b

theorem mem_distinctFrom {seen xs : List String} {x : String} :
    x ∈ distinctFrom seen xs ↔ x ∈ xs ∧ x ∉ seen := by
  induction xs generalizing seen with
  | nil => simp [distinctFrom]
  | cons y rest ih =>
    by_cases known : y ∈ seen
    · rw [distinctFrom, if_pos known, ih, List.mem_cons]
      constructor
      · rintro ⟨mem, fresh⟩
        exact ⟨.inr mem, fresh⟩
      · rintro ⟨rfl | mem, fresh⟩
        · exact absurd known fresh
        · exact ⟨mem, fresh⟩
    · simp only [distinctFrom, if_neg known, List.mem_cons, ih, not_or]
      constructor
      · rintro (rfl | ⟨mem, -, fresh⟩)
        · exact ⟨.inl rfl, known⟩
        · exact ⟨.inr mem, fresh⟩
      · rintro ⟨here | mem, fresh⟩
        · exact .inl here
        · by_cases here : x = y
          · exact .inl here
          · exact .inr ⟨mem, here, fresh⟩

theorem order_distinctFrom (seen xs : List String) :
    (distinctFrom seen xs).Pairwise fun a b => xs.idxOf a < xs.idxOf b := by
  induction xs generalizing seen with
  | nil => exact .nil
  | cons y rest ih =>
    -- What comes later differs from the head, so its place is one more than in the rest.
    have later {seen : List String} (known : y ∈ seen) :
        (distinctFrom seen rest).Pairwise
          fun a b => (y :: rest).idxOf a < (y :: rest).idxOf b := by
      have other {a : String} (mem : a ∈ distinctFrom seen rest) : y ≠ a := by
        rintro rfl
        exact (mem_distinctFrom.mp mem).2 known
      refine (ih seen).imp_of_mem fun memA memB less => ?_
      rw [List.idxOf_cons_ne _ (other memA), List.idxOf_cons_ne _ (other memB)]
      exact Nat.succ_lt_succ less
    by_cases known : y ∈ seen
    · rw [distinctFrom, if_pos known]
      exact later known
    · rw [distinctFrom, if_neg known, List.pairwise_cons]
      refine ⟨fun a mem => ?_, later List.mem_cons_self⟩
      have other : y ≠ a := by
        rintro rfl
        exact (mem_distinctFrom.mp mem).2 List.mem_cons_self
      rw [List.idxOf_cons_self, List.idxOf_cons_ne _ other]
      exact Nat.succ_pos _

theorem firstSeen_distinct (xs : List String) : FirstSeen (distinct xs) xs where
  nodup := (order_distinctFrom [] xs).imp fun less same => by
    subst same
    exact Nat.lt_irrefl _ less
  mem_iff x := by simp [distinct, mem_distinctFrom]
  order := order_distinctFrom [] xs

/-! ## References that end with a colon -/

theorem endsWith_colon {text : String} :
    Text.endsWith text ":" = true ↔ ∃ before, text.toList = before ++ [':'] := by
  have colon : ":".toList = [':'] := rfl
  rw [Text.endsWith, colon, List.isSuffixOf_iff_suffix]
  constructor
  · rintro ⟨before, chars⟩
    exact ⟨before, chars.symm⟩
  · rintro ⟨before, chars⟩
    exact ⟨before, chars.symm⟩

/-- A reference ends with a colon exactly when there is nothing after its own, or another one at the
end of the id. -/
theorem endsWith_reference (object : Entity) :
    Text.endsWith object.reference ":" = true ↔
      object.id = "" ∨ Text.endsWith object.id ":" = true := by
  have chars : object.reference.toList =
      (Naming.canonical object.typeName).toList ++ ':' :: object.id.toList := by
    simp [Entity.reference, Naming.qualify]
  rw [endsWith_colon, endsWith_colon, chars]
  rcases List.eq_nil_or_concat object.id.toList with empty | ⟨init, last, ends⟩
  · have nothing : object.id = "" := String.toList_inj.mp empty
    simp [nothing]
  · have something : object.id ≠ "" := by
      rintro nothing
      rw [nothing] at ends
      simp at ends
    have same : (Naming.canonical object.typeName).toList ++ ':' :: (init ++ [last]) =
        ((Naming.canonical object.typeName).toList ++ ':' :: init) ++ [last] := by simp
    rw [List.concat_eq_append] at ends
    rw [ends, same]
    simp only [something, false_or]
    constructor
    · rintro ⟨before, eq⟩
      exact ⟨init, by rw [(List.append_inj' eq rfl).2]⟩
    · rintro ⟨before, eq⟩
      exact ⟨_, by rw [(List.append_inj' eq rfl).2]⟩

/-! ## What is stored -/

/-- The users of the stored tuples whose object is among those meant, in the order of the store. -/
def usersOn (meant : String → Bool) (stored : List Tuple) : List String :=
  (stored.filter fun t => meant t.object).map (·.user)

/-- A recorded engine that answers: it neither hangs nor is about to fail. -/
def answering (s : Recorded) : Recorded := { s with hanging := false, failNext := none }

/-- A query for all accessors gives the users of the tuples stored for one object. -/
def ListsAccessors (s : Recorded) (object : Entity) : Prop :=
  ∃ users, (listAllAccessors recorded false object s).1 = .ok users ∧
    FirstSeen users (usersOn (· = object.reference) s.stored)

theorem listAllAccessors_eq (s : Recorded) (object : Entity) :
    (listAllAccessors recorded false object (answering s)).1 =
      .ok (distinct (usersOn (fun stored =>
        if Text.endsWith object.reference ":" then Text.beginsWith stored object.reference
        else stored = object.reference) s.stored)) := by
  simp only [listAllAccessors, attempt, recorded, Recorded.respond, answering, Recorded.log,
    Bool.false_eq_true, if_false, Except.map, usersOn]
  congr 4

/-- Where the reference of an object ends with a colon, it is taken for the beginning of others. -/
theorem listAllAccessors_of_colon {object : Entity}
    (colon : Text.endsWith object.reference ":" = true) (s : Recorded) :
    (listAllAccessors recorded false object (answering s)).1 =
      .ok (distinct (usersOn (Text.beginsWith · object.reference) s.stored)) := by
  rw [listAllAccessors_eq]
  simp only [colon, if_true]

theorem listsAccessors_of_plain {object : Entity}
    (plain : Text.endsWith object.reference ":" = false) (s : Recorded) :
    ListsAccessors (answering s) object := by
  refine ⟨_, ?_, firstSeen_distinct _⟩
  rw [listAllAccessors_eq]
  simp only [plain, Bool.false_eq_true, if_false]
  rfl

/-- A user of another object is listed too, where the reference of that object begins with this
one. -/
theorem not_listsAccessors_of_colon {object : Entity}
    (colon : Text.endsWith object.reference ":" = true) :
    ∃ s, ¬ ListsAccessors (answering s) object := by
  let longer := object.reference ++ "x"
  have other : longer ≠ object.reference := by
    intro same
    have length := congrArg String.length same
    simp [longer] at length
  have begins : Text.beginsWith longer object.reference = true := by
    simp [Text.beginsWith, longer]
  refine ⟨{ stored := [⟨"user:anne", "reader", longer, none⟩] }, ?_⟩
  rintro ⟨users, listed, exactly⟩
  rw [listAllAccessors_of_colon colon, Except.ok.injEq] at listed
  have leaked : "user:anne" ∈ users := by
    rw [← listed, (firstSeen_distinct _).mem_iff]
    simp [usersOn, begins]
  have nobody : "user:anne" ∉ users := by
    rw [exactly.mem_iff]
    simp [usersOn, answering, other]
  exact nobody leaked

/-- The accessors of an object are listed exactly, whatever is stored, just where the id is not
empty and does not end with a colon. Where it is or does, the list has the users of every object
whose reference begins with that of the object. -/
theorem listAllAccessors_exact_iff (object : Entity) :
    ((∀ s, ListsAccessors (answering s) object) ↔
      object.id ≠ "" ∧ Text.endsWith object.id ":" = false) ∧
    (object.id = "" ∨ Text.endsWith object.id ":" = true → ∀ s, ∃ users,
      (listAllAccessors recorded false object (answering s)).1 = .ok users ∧
        FirstSeen users (usersOn (Text.beginsWith · object.reference) s.stored)) := by
  have plain_iff : Text.endsWith object.reference ":" = false ↔
      object.id ≠ "" ∧ Text.endsWith object.id ":" = false := by
    rw [← Bool.not_eq_true, ← Bool.not_eq_true, endsWith_reference, not_or]
  refine ⟨⟨fun lists => ?_, fun plain s => ?_⟩, fun colon s => ?_⟩
  · rw [← plain_iff, ← Bool.not_eq_true]
    intro colon
    obtain ⟨s, leaks⟩ := not_listsAccessors_of_colon colon
    exact leaks (lists s)
  · exact listsAccessors_of_plain (plain_iff.mpr plain) s
  · have ends := (endsWith_reference object).mpr colon
    exact ⟨_, listAllAccessors_of_colon ends s, firstSeen_distinct _⟩

/-- A user who was granted a relation on another object only, whose id begins with the colon and all
before it, is among the accessors of an object whose id ends with a colon. -/
theorem listAllAccessors_lists_other_object :
    let object : Entity := ⟨"Form", "a:"⟩
    let granted := (({} : Mutation).add ⟨"User", "anne"⟩ "editor" object).add ⟨"User", "zoe"⟩
      "editor" ⟨"Form", "a:b"⟩
    let committed := (granted.commit recorded false {}).2
    (listAllAccessors recorded false object committed).1 = .ok ["user:anne", "user:zoe"] ∧
      ¬ ListsAccessors committed object := by
  intro object granted committed
  have listed : (listAllAccessors recorded false object committed).1 =
      .ok ["user:anne", "user:zoe"] := by
    decide +kernel
  refine ⟨listed, ?_⟩
  rintro ⟨users, same, exactly⟩
  rw [listed, Except.ok.injEq] at same
  have mem : "user:zoe" ∈ usersOn (· = object.reference) committed.stored := by
    rw [← exactly.mem_iff, ← same]
    simp
  revert mem
  decide +kernel

end Rebac.Access
