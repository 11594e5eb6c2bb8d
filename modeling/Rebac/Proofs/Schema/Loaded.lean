import Rebac.Proofs.Except
import Rebac.Proofs.Keyed
import Rebac.Schema.Document

/-!
# What a loaded schema promises

A document may spell a relation in any way. A schema that is loaded from it holds each relation
under its canonical name, and no type has two relations of one name.
-/

namespace Rebac.Schema

/-- The relations have canonical names, which differ. -/
structure WellNamed (relations : List Relation) : Prop where
  canonical : ∀ r ∈ relations, ∃ written, r.name = Naming.canonical written
  distinct : (relations.map (·.name)).Nodup

namespace WellNamed

variable {relations : List Relation}

/-- A selection of well-named relations is well named. -/
theorem filter (named : WellNamed relations) (kept : Relation → Bool) :
    WellNamed (relations.filter kept) where
  canonical r mem := named.canonical r (List.mem_filter.mp mem).1
  distinct := (List.filter_sublist.map _).nodup named.distinct

theorem direct {t : TypeDefinition} (named : WellNamed t.relations) : WellNamed t.direct :=
  named.filter _

theorem computed {t : TypeDefinition} (named : WellNamed t.relations) : WellNamed t.computed :=
  named.filter _

/-- Two relations of one type with one name are one relation. -/
theorem eq_of_name (named : WellNamed relations) {r r' : Relation} (mem : r ∈ relations)
    (mem' : r' ∈ relations) (same : r.name = r'.name) : r = r' := by
  have found := Keyed.find?_of_nodup_keys named.distinct mem
  rw [same, Keyed.find?_of_nodup_keys named.distinct mem'] at found
  exact (Option.some.inj found).symm

end WellNamed

/-- Relations are loaded under their canonical names, and each must differ from those loaded before
it. -/
theorem loadRelations_ok {typeName : String} {metadata : Option Json} {position : Nat}
    {seen : List String} {entries : List (Option String × Json)} {relations : List Relation}
    (ok : loadRelations typeName metadata position seen entries = .ok relations) :
    WellNamed relations ∧ ∀ r ∈ relations, r.name ∉ seen := by
  induction entries generalizing position seen relations with
  | nil =>
    cases ok
    exact ⟨⟨by simp, List.nodup_nil⟩, by simp⟩
  | cons entry rest ih =>
    obtain ⟨written?, userset⟩ := entry
    cases written? with
    | none => cases ok
    | some written =>
      simp only [loadRelations] at ok
      split at ok
      · cases ok
      next fresh =>
        simp only [bind_eq_ok, pure_eq_ok] at ok
        obtain ⟨others, loaded, rfl⟩ := ok
        obtain ⟨⟨canonical, distinct⟩, unseen⟩ := ih loaded
        refine ⟨⟨List.forall_mem_cons.mpr ⟨⟨written, rfl⟩, canonical⟩, ?_⟩, ?_⟩
        · rw [List.map_cons, List.nodup_cons]
          refine ⟨fun again => ?_, distinct⟩
          obtain ⟨r, mem, same⟩ := List.mem_map.mp again
          exact unseen r mem (same ▸ List.mem_cons_self)
        · refine List.forall_mem_cons.mpr ⟨fresh, fun r mem known => ?_⟩
          exact unseen r mem (List.mem_cons_of_mem _ known)

/-- The relations of a type are compared within that type alone. -/
theorem loadType_ok {index : Nat} {entry : Json} {t : TypeDefinition}
    (ok : loadType index entry = .ok t) : WellNamed t.relations := by
  unfold loadType at ok
  split at ok
  · cases ok
  · dsimp only at ok
    split at ok
    · cases ok
    · simp only [bind_eq_ok, pure_eq_ok] at ok
      obtain ⟨relations, loaded, rfl⟩ := ok
      exact (loadRelations_ok loaded).1

theorem loadTypes_ok {index : Nat} {seen : List String} {entries : List Json}
    {types : List TypeDefinition} (ok : loadTypes index seen entries = .ok types) :
    ∀ t ∈ types, WellNamed t.relations := by
  induction entries generalizing index seen types with
  | nil =>
    cases ok
    simp
  | cons entry rest ih =>
    simp only [loadTypes, bind_eq_ok] at ok
    obtain ⟨t, loaded, ok⟩ := ok
    split at ok
    · cases ok
    · simp only [bind_eq_ok, pure_eq_ok] at ok
      obtain ⟨others, loadedOthers, rfl⟩ := ok
      exact List.forall_mem_cons.mpr ⟨loadType_ok loaded, ih loadedOthers⟩

/-- The types of a loaded schema are those of the array that its document has for them. -/
theorem Model.types_of_ofJson {document : Json} {model : Model}
    (loaded : Model.ofJson document = .ok model) :
    ∃ entries, (document.get? "type_definitions").bind Json.arr? = some entries ∧
      loadTypes 0 [] entries = .ok model.types := by
  unfold Model.ofJson at loaded
  split at loaded
  · split at loaded
    · cases loaded
    next entries found =>
      simp only [bind_eq_ok, pure_eq_ok] at loaded
      obtain ⟨types, loadedTypes, _, _, _, _, rfl⟩ := loaded
      exact ⟨entries, found, loadedTypes⟩
  · cases loaded

/-- Every type of a loaded schema is well named. A schema made by hand need not be, so this is where
loading matters for bindings. -/
theorem Model.wellNamed_of_ofJson {document : Json} {model : Model}
    (loaded : Model.ofJson document = .ok model) : ∀ t ∈ model.types, WellNamed t.relations := by
  obtain ⟨entries, -, loadedTypes⟩ := Model.types_of_ofJson loaded
  exact loadTypes_ok loadedTypes

end Rebac.Schema
