import Mathlib.Data.Finset.Card
import Rebac.Condition.Context
import Rebac.Proofs.Json.Same

/-!
# Contexts after any operations

A context is what its assignments make, from the last time that it was collected: a name has the
place of its first assignment and the value of its last. Merging sets the values of the other
context, so it is associative, and where no name is in both contexts it depends on their order for
the order of names alone.
-/

namespace Rebac.Condition.Context

/-! ## Operations -/

/-- An operation on a context. -/
inductive Edit where
  | insert (name : String) (value : Json)
  | merge (other : Context)
  | extend (values : List (String × Json))
  /-- Puts the context of these values in place of the present one. -/
  | collect (values : List (String × Json))

/-- The context after an operation. -/
def Edit.apply (c : Context) : Edit → Context
  | .insert name value => c.insert name value
  | .merge other => c.merge other
  | .extend values => c.extend values
  | .collect values => ofList values

/-- The assignments that count after an operation, when those of `past` count before it. -/
def Edit.logged (past : List (String × Json)) : Edit → List (String × Json)
  | .insert name value => past ++ [(name, value)]
  | .merge other => past ++ other.entries
  | .extend values => past ++ values
  | .collect values => values

/-- The context after operations on an empty one. -/
def run (edits : List Edit) : Context := edits.foldl Edit.apply .empty

/-- The assignments since the last collection, in order. -/
def assignments (edits : List Edit) : List (String × Json) := edits.foldl Edit.logged []

theorem ext_entries {a b : Context} (same : a.entries = b.entries) : a = b := by
  cases a
  cases b
  congr

theorem entries_ofList (values : List (String × Json)) :
    (ofList values).entries = Keyed.ofList values := rfl

theorem entries_merge (a b : Context) : (a.merge b).entries = Keyed.putAll a.entries b.entries :=
  rfl

/-- Values that are set after others are set as if all of them were set in turn. -/
theorem extend_ofList (past values : List (String × Json)) :
    (ofList past).extend values = ofList (past ++ values) :=
  ext_entries List.foldl_append.symm

/-- What one operation does to the context of assignments, it does to the assignments. -/
theorem apply_ofList (past : List (String × Json)) (e : Edit) :
    e.apply (ofList past) = ofList (e.logged past) := by
  cases e with
  | insert name value => exact extend_ofList past [(name, value)]
  | merge other => exact extend_ofList past other.entries
  | extend values => exact extend_ofList past values
  | collect values => rfl

/-- A run of edits gives what the list of all its assignments gives, however they are spread over
single ones, lists and merges. -/
theorem run_eq_ofList (edits : List Edit) : run edits = ofList (assignments edits) := by
  have from_past (past : List (String × Json)) :
      edits.foldl Edit.apply (ofList past) = ofList (edits.foldl Edit.logged past) := by
    induction edits generalizing past with
    | nil => rfl
    | cons e rest ih => rw [List.foldl_cons, apply_ofList, ih, List.foldl_cons]
  exact from_past []

/-! ## What a context of assignments shows -/

theorem get?_ofList {values : List (String × Json)} {name : String} {value : Json} :
    (ofList values).get? name = some value ↔ Keyed.LastPut values name value :=
  Keyed.find?_ofList_eq_some

/-- A context has as many entries as there are names, however often each is assigned. -/
theorem size_ofList (values : List (String × Json)) :
    (ofList values).size = (Keyed.keys values).toFinset.card := by
  have names : (Keyed.keys (ofList values).entries).toFinset = (Keyed.keys values).toFinset := by
    ext name
    rw [entries_ofList, Keyed.keys_ofList, List.mem_toFinset, List.mem_toFinset,
      List.mem_eraseDups]
  rw [← names, List.toFinset_card_of_nodup (ofList values).nodup, Keyed.keys, List.length_map]
  rfl

/-! ## Merging -/

theorem merge_assoc (a b c : Context) : (a.merge b).merge c = a.merge (b.merge c) :=
  ext_entries (Keyed.putAll_putAll a.entries b.nodup c.entries).symm

theorem merge_empty (c : Context) : c.merge .empty = c := rfl

theorem empty_merge (c : Context) : empty.merge c = c :=
  ext_entries (Keyed.ofList_of_nodup c.nodup)

section Disjoint

variable {a b : Context}
  (disjoint : ∀ name ∈ Keyed.keys a.entries, name ∉ Keyed.keys b.entries)

include disjoint

/-- Where no name is in both, a merge puts one list of entries behind the other. -/
theorem entries_merge_of_disjoint : (a.merge b).entries = a.entries ++ b.entries := by
  rw [entries_merge]
  refine Keyed.putAll_of_nodup ?_
  rw [Keyed.keys, List.map_append]
  refine List.nodup_append.mpr ⟨a.nodup, b.nodup, fun name own other mem same => ?_⟩
  exact disjoint name own (same ▸ mem)

/-- Contexts without a common name merge to the same entries either way round. Only the order is
another. -/
theorem merge_perm : (a.merge b).entries.Perm (b.merge a).entries := by
  have disjoint' : ∀ name ∈ Keyed.keys b.entries, name ∉ Keyed.keys a.entries :=
    fun name own other => disjoint name other own
  rw [entries_merge_of_disjoint disjoint, entries_merge_of_disjoint disjoint']
  exact List.perm_append_comm

/-- Contexts without a common name are merged to equal ones, whichever of them comes first. -/
theorem merge_same (settled : ∀ m ∈ a.entries ++ b.entries, m.2.settled = m.2) :
    (a.merge b).same (b.merge a) = true := by
  refine Json.same_obj_of_perm (merge_perm disjoint) (a.merge b).nodup fun m mem => ?_
  rw [entries_merge_of_disjoint disjoint] at mem
  exact Json.same_self m.2 (settled m mem)

end Disjoint

/-- After any operations a name stands once in a context, in the place of its first assignment since
the context was last collected, and has the value of the last one; so there are as many names as
differ among the assignments. Merging is associative, merging with an empty context changes nothing,
and contexts without a common name may be merged in either order, which matters for the order of
names alone and so not for equality. Equality is that of settled values, in which no object repeats
a name. -/
theorem run_keeps_first_place_and_last_value :
    (∀ edits : List Edit,
      (Keyed.keys (run edits).entries).Nodup ∧
      (∀ name value, (run edits).get? name = some value ↔
        Keyed.LastPut (assignments edits) name value) ∧
      Keyed.keys (run edits).entries = (Keyed.keys (assignments edits)).eraseDups ∧
      (run edits).size = (Keyed.keys (assignments edits)).toFinset.card) ∧
    (∀ a b c : Context, (a.merge b).merge c = a.merge (b.merge c)) ∧
    (∀ c : Context, c.merge .empty = c ∧ empty.merge c = c) ∧
    ∀ a b : Context, (∀ name ∈ Keyed.keys a.entries, name ∉ Keyed.keys b.entries) →
      (a.merge b).entries.Perm (b.merge a).entries ∧
      ((∀ m ∈ a.entries ++ b.entries, m.2.settled = m.2) →
        (a.merge b).same (b.merge a) = true) := by
  refine ⟨fun edits => ?_, merge_assoc, fun c => ⟨merge_empty c, empty_merge c⟩,
    fun a b disjoint => ⟨merge_perm disjoint, merge_same disjoint⟩⟩
  rw [run_eq_ofList]
  exact ⟨(ofList _).nodup, fun _ _ => get?_ofList, Keyed.keys_ofList _, size_ofList _⟩

/-- The contexts of the two phases of a condition, with nested values. Their names are distinct, so
they merge to the same value either way round. -/
theorem run_keeps_first_place_and_last_value_halves :
    let start := ofList [("trial_start_init", .str "2026-01-01T00:00:00.000Z")]
    let bounds := ofList [("limits", .obj [("least", .int 1), ("most", .int 7)]), ("open", .null)]
    (∀ name ∈ Keyed.keys start.entries, name ∉ Keyed.keys bounds.entries) ∧
      (∀ m ∈ start.entries ++ bounds.entries, m.2.settled = m.2) ∧
      (start.merge bounds).entries.Perm (bounds.merge start).entries ∧
      (start.merge bounds).same (bounds.merge start) = true := by
  intro start bounds
  have disjoint : ∀ name ∈ Keyed.keys start.entries, name ∉ Keyed.keys bounds.entries := by decide
  have settled : ∀ m ∈ start.entries ++ bounds.entries, m.2.settled = m.2 := by
    simp [start, bounds, entries_ofList, Keyed.ofList, Keyed.putAll, Keyed.put, Json.settled,
      Json.settledMembers]
  obtain ⟨perm, same⟩ := run_keeps_first_place_and_last_value.2.2.2 start bounds disjoint
  exact ⟨disjoint, settled, perm, same settled⟩

end Rebac.Condition.Context
