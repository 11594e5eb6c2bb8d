import Mathlib.Data.List.Sort
import Mathlib.Data.String.Basic
import Rebac.Engine.Recorded
import Rebac.Proofs.Text.Affix

/-!
# Allowed relationships

The recorded engine holds each relationship that was allowed once. Every answer to a question about
relationships is read from this one table, so a list of objects or of users has exactly those of the
type for which a check is answered yes, in increasing order.
-/

namespace Rebac.Engine

/-! ## Lists of references -/

/-- A list of the chosen references of a type, in increasing order. -/
structure Lists (references : List String) (type : String) (chosen : String → Prop) : Prop where
  increasing : references.Pairwise (· < ·)
  mem_iff (x : String) : x ∈ references ↔ (∃ id, x = type ++ ":" ++ id) ∧ chosen x

namespace Recorded

theorem insertSorted_eq (x : String) (xs : List String) :
    insertSorted x xs = xs.orderedInsert (· ≤ ·) x := by
  induction xs with
  | nil => rfl
  | cons y rest ih => rw [insertSorted, ih, List.orderedInsert_cons]

/-- The order of listings is the order of texts, as any other sorting would give it. -/
theorem sorted_eq (xs : List String) : sorted xs = xs.insertionSort (· ≤ ·) := by
  induction xs with
  | nil => rfl
  | cons x rest ih =>
    have step : sorted (x :: rest) = insertSorted x (sorted rest) := rfl
    rw [step, ih, insertSorted_eq, List.insertionSort_cons]

theorem mem_sorted {x : String} {xs : List String} : x ∈ sorted xs ↔ x ∈ xs := by
  rw [sorted_eq]
  exact (List.perm_insertionSort _ xs).mem_iff

/-- A sorted list of different texts increases strictly. -/
theorem sorted_increasing {xs : List String} (nodup : xs.Nodup) :
    (sorted xs).Pairwise (· < ·) := by
  rw [sorted_eq]
  have apart : (xs.insertionSort (· ≤ ·)).Nodup :=
    (List.perm_insertionSort _ xs).nodup_iff.mpr nodup
  exact (List.sortedLE_insertionSort.sortedLT_of_nodup apart).pairwise

/-- One column of the relationships that agree with a row in the others, where it names the type. -/
theorem lists_column {rs : List Relationship} (nodup : rs.Nodup) {type : String}
    {column : Relationship → String} {row : String → Relationship} {own : Relationship → Bool}
    (column_row : ∀ x, column (row x) = x)
    (own_iff : ∀ r, own r = true ↔
      r = row (column r) ∧ Text.beginsWith (column r) (type ++ ":") = true) :
    Lists (sorted ((rs.filter own).map column)) type fun x => row x ∈ rs where
  increasing := by
    refine sorted_increasing ((nodup.filter _).map_on fun r mem r' mem' same => ?_)
    rw [((own_iff r).mp (List.mem_filter.mp mem).2).1, same]
    exact ((own_iff r').mp (List.mem_filter.mp mem').2).1.symm
  mem_iff x := by
    rw [mem_sorted, List.mem_map, ← Text.beginsWith_iff]
    constructor
    · rintro ⟨r, mem, rfl⟩
      obtain ⟨inside, own⟩ := List.mem_filter.mp mem
      obtain ⟨same, begins⟩ := (own_iff r).mp own
      exact ⟨begins, same ▸ inside⟩
    · rintro ⟨begins, inside⟩
      refine ⟨row x, List.mem_filter.mpr ⟨inside, (own_iff _).mpr ?_⟩, column_row x⟩
      rw [column_row]
      exact ⟨rfl, begins⟩

/-! ## The table -/

/-- A recorded engine after calls that allow relationships, whatever it was asked and whatever is
stored. -/
def allowing (log : List Request) (stored : List Tuple) (granted : List Relationship) : Recorded :=
  granted.foldl (fun s r => s.allow r) { requests := log, stored }

/-- An engine that answers, whose table has these relationships, each once. -/
structure Allows (s : Recorded) (granted : List Relationship) : Prop where
  awake : s.hanging = false
  unscripted : s.failNext = none
  mem_iff (r : Relationship) : r ∈ s.allowed ↔ r ∈ granted
  nodup : s.allowed.Nodup

variable {s : Recorded} {granted : List Relationship}

/-- Allowing a relationship adds it to those that are granted. Allowing it again changes nothing. -/
theorem Allows.allow (allows : s.Allows granted) (r : Relationship) :
    (s.allow r).Allows (granted ++ [r]) := by
  rw [Recorded.allow]
  split
  next known =>
    refine ⟨allows.awake, allows.unscripted, fun r' => ?_, allows.nodup⟩
    rw [List.mem_append, List.mem_singleton, ← allows.mem_iff, iff_self_or]
    rintro rfl
    exact known
  next fresh =>
    refine ⟨allows.awake, allows.unscripted, fun r' => ?_, ?_⟩
    · rw [List.mem_append, List.mem_append, allows.mem_iff]
    · rw [← List.concat_eq_append]
      exact allows.nodup.concat fresh

/-- After any number of allowances, those before and those new are granted. -/
theorem Allows.foldl (allows : s.Allows granted) (more : List Relationship) :
    (more.foldl (fun s r => s.allow r) s).Allows (granted ++ more) := by
  induction more generalizing s granted with
  | nil => rwa [List.append_nil]
  | cons r rest ih =>
    rw [List.append_cons]
    exact ih (allows.allow r)

theorem allows_allowing (log : List Request) (stored : List Tuple)
    (granted : List Relationship) : (allowing log stored granted).Allows granted := by
  have start : Allows { requests := log, stored } [] :=
    ⟨rfl, rfl, fun _ => Iff.rfl, List.nodup_nil⟩
  exact start.foldl granted

/-! ## Answers -/

namespace Allows

/-- A request that meets no fault is logged and answered. -/
theorem respond_eq (allows : s.Allows granted) {α : Type} (request : Request)
    (answer : Recorded → α × Recorded) :
    (respond request answer s).1 = .value (answer (s.log request)).1 := by
  simp only [respond, allows.awake, allows.unscripted, Bool.false_eq_true, if_false]

theorem isAllowed_eq (allows : s.Allows granted) (item : CheckItem) :
    s.isAllowed item = decide (item.relationship ∈ granted) := by
  rw [isAllowed, List.contains_eq_mem, decide_eq_decide]
  exact allows.mem_iff _

theorem check_eq (allows : s.Allows granted) (item : CheckItem) :
    (recorded.check item s).1 = .value (decide (item.relationship ∈ granted)) := by
  rw [← allows.isAllowed_eq]
  exact allows.respond_eq _ _

/-- A batch is answered check by check, in order. -/
theorem checkBatch_eq (allows : s.Allows granted) (items : List CheckItem) :
    (recorded.checkBatch items s).1 =
      .value (items.map fun item => decide (item.relationship ∈ granted)) := by
  rw [← List.map_congr_left fun item _ => allows.isAllowed_eq item]
  exact allows.respond_eq _ _

/-- The users of an object are listed exactly: those of the type for which the relationship is
granted, once each, in increasing order. -/
theorem lists_users (allows : s.Allows granted) (object relation type : String) :
    ∃ users, (recorded.listUsers object relation type s).1 = .value users ∧
      Lists users type fun user => ⟨object, relation, user⟩ ∈ granted := by
  refine ⟨_, allows.respond_eq _ _, ?_⟩
  simp only [← allows.mem_iff]
  refine lists_column allows.nodup (fun _ => rfl) fun r => ?_
  cases r
  simp [and_assoc]

/-- So are the objects of a user. -/
theorem lists_objects (allows : s.Allows granted) (user relation type : String) :
    ∃ objects, (recorded.listObjects user relation type s).1 = .value objects ∧
      Lists objects type fun object => ⟨object, relation, user⟩ ∈ granted := by
  refine ⟨_, allows.respond_eq _ _, ?_⟩
  simp only [← allows.mem_iff]
  refine lists_column allows.nodup (fun _ => rfl) fun r => ?_
  cases r
  simp [and_comm, and_assoc]

end Allows

end Recorded

end Rebac.Engine
