import Rebac.Proofs.Keyed
import Rebac.Settings.Layer

/-!
# What a layer changes

Laid over a tree, a map changes what stands under its own keys and nothing else, and what it makes
of one of them does not depend on the others. This holds for a map whose keys are distinct and in
lower case. A layer is such a map when its keys are plain names, so that none of them is a longer
path.
-/

namespace Rebac.Settings

/-- What a value has under a key. -/
def child? (v : Yaml) (key : String) : Option Yaml := Keyed.find? (entriesOf v) key

theorem child?_getD (v : Option Yaml) (key : String) :
    child? (v.getD (.map [])) key = v.bind (child? · key) := by
  cases v <;> rfl

/-- A change at one key makes an empty map there if there was nothing, and leaves every other key
alone. -/
theorem child?_change (f : Yaml → Yaml) (tree : Yaml) (key key' : String) :
    child? ((Step.name key).change f tree) key' =
      if key = key' then some (f ((child? tree key).getD (.map []))) else child? tree key' :=
  Keyed.find?_put _ _ _ _

/-! ## Maps -/

/-- The keys of a map are in lower case, and each stands there once. -/
structure HasLowerKeys (entries : List (String × Yaml)) : Prop where
  nodup : (Keyed.keys entries).Nodup
  lower : ∀ key ∈ Keyed.keys entries, lowerKey key = key

namespace HasLowerKeys

variable {entry : String × Yaml} {entries : List (String × Yaml)}

theorem tail (keys : HasLowerKeys (entry :: entries)) : HasLowerKeys entries :=
  ⟨(List.nodup_cons.1 keys.nodup).2, fun key member => keys.lower key (.tail _ member)⟩

theorem lower_head (keys : HasLowerKeys (entry :: entries)) : lowerKey entry.1 = entry.1 :=
  keys.lower entry.1 (.head _)

theorem find?_head (keys : HasLowerKeys (entry :: entries)) : Keyed.find? entries entry.1 = none :=
  Keyed.find?_eq_none.2 (List.nodup_cons.1 keys.nodup).1

end HasLowerKeys

/-- Laying entries over a tree changes the keys that are named in them. Each is laid over what was
there. -/
theorem child?_overlayEntries {entries : List (String × Yaml)} (keys : HasLowerKeys entries)
    (tree : Yaml) (key : String) :
    child? (overlayEntries entries tree) key =
      match Keyed.find? entries key with
      | some v => some (overlay v ((child? tree key).getD (.map [])))
      | none => child? tree key := by
  induction entries generalizing tree with
  | nil => rfl
  | cons entry rest ih =>
    rw [overlayEntries, ih keys.tail, child?_change, keys.lower_head, Keyed.find?]
    by_cases same : entry.1 = key
    · subst same
      simp [keys.find?_head]
    · simp only [if_neg same]

/-- The value is a map. -/
def IsMap (v : Yaml) : Prop := ∃ entries, v = .map entries

theorem isMap_change (f : Yaml → Yaml) (key : String) (tree : Yaml) :
    IsMap ((Step.name key).change f tree) :=
  ⟨_, rfl⟩

theorem isMap_overlayEntries {entries : List (String × Yaml)} {tree : Yaml}
    (under : entries = [] → IsMap tree) : IsMap (overlayEntries entries tree) := by
  induction entries generalizing tree with
  | nil => exact under rfl
  | cons entry rest ih => exact ih fun _ => isMap_change _ _ _

/-! ## Layers -/

/-- The key of a layer is a name in lower case, and no path. -/
structure IsPlainKey (key : String) : Prop where
  lower : lowerKey key = key
  point : '.' ∉ key.toList
  bracket : '[' ∉ key.toList

theorem steps?_eq_none {c : Char} {cs : List Char} (point : c ≠ '.') (bracket : c ≠ '[') :
    steps? (c :: cs) = none := by
  rw [steps?]
  · rintro ⟨⟩
  · rintro rest ⟨⟩
    exact point rfl
  · rintro rest ⟨⟩
    exact bracket rfl

/-- A plain key is no path: it has one step. -/
theorem placeOf_of_isPlainKey {key : String} (plain : IsPlainKey key) :
    placeOf key = [.name key] := by
  have whole : key.toList.takeWhile isNameChar ++ key.toList.dropWhile isNameChar = key.toList :=
    List.takeWhile_append_dropWhile
  simp only [placeOf, plain.lower]
  rw [steps?]
  split
  · rfl
  · cases rest : key.toList.dropWhile isNameChar with
    | nil =>
      rw [rest, List.append_nil] at whole
      rw [steps?, whole]
      simp
    | cons c cs =>
      have inside : c ∈ key.toList := by
        rw [← whole, rest]
        simp
      rw [steps?_eq_none (fun point => plain.point (point ▸ inside))
        fun bracket => plain.bracket (bracket ▸ inside)]
      rfl

/-- A layer of plain keys is laid over a tree as a map is. -/
theorem Layer.over_eq_overlayEntries {layer : Layer}
    (plain : ∀ key ∈ Keyed.keys layer, IsPlainKey key) (tree : Yaml) :
    layer.over tree = overlayEntries layer tree := by
  induction layer generalizing tree with
  | nil => rfl
  | cons entry rest ih =>
    have head := plain entry.1 (.head _)
    have step : Layer.over (entry :: rest) tree =
      Layer.over rest (assign (placeOf entry.1) entry.2 tree) := rfl
    rw [step, ih fun key member => plain key (.tail _ member), placeOf_of_isPlainKey head,
      overlayEntries, head.lower]
    rfl

end Rebac.Settings
