import Rebac.Proofs.Settings.Layer
import Rebac.Proofs.Yaml.Node
import Rebac.Settings.Basic

/-!
# Settings in the tree of layers

Each setting has a place in the tree of the layers. What stands there depends on what the layers
have at that place alone: the text of its variable, else the value in the file, else the default.

A section that the file gives as a list is left out here. Its fields are read by place, and a
variable puts a map where the list was, by which the fields it does not set fall back to their
defaults.
-/

namespace Rebac.Settings

/-- One of the settings. -/
inductive Setting where
  | apiUrl
  | storeId
  | modelId
  | apiToken
  | disableTransactions
deriving DecidableEq, Repr

/-- A value taken for a scalar, that as `take` takes it, and the outcome as `form` shows it. -/
def taken? {α : Type} (take : Yaml.Scalar → Option α) (form : α → Yaml) : Yaml → Option Yaml
  | .scalar c => (take c).map form
  | _ => none

/-- A scalar taken for a text, where null is none. -/
def optionalText? : Yaml.Scalar → Option (Option String)
  | .null => some none
  | c => c.toText?.map some

namespace Setting

/-- The section that a setting stands in. -/
def sectionName : Setting → String
  | disableTransactions => "mutation"
  | _ => "engine"

/-- The name of a setting in its section. -/
def fieldName : Setting → String
  | apiUrl => "api_url"
  | storeId => "store_id"
  | modelId => "authorization_model_id"
  | apiToken => "api_token"
  | disableTransactions => "disable_transactions"

/-- The variable that sets a setting. -/
def variableName : Setting → String
  | apiUrl => "FGA_ENGINE__API_URL"
  | storeId => "FGA_ENGINE__STORE_ID"
  | modelId => "FGA_ENGINE__AUTHORIZATION_MODEL_ID"
  | apiToken => "FGA_ENGINE__API_TOKEN"
  | disableTransactions => "FGA_MUTATION__DISABLE_TRANSACTIONS"

/-- The value of a setting, as a layer shows it. -/
def shown : Setting → Settings → Yaml
  | apiUrl, s => .text s.engine.apiUrl
  | storeId, s => textOrNone s.engine.storeId
  | modelId, s => textOrNone s.engine.modelId
  | apiToken, s => textOrNone s.engine.apiToken
  | disableTransactions, s => .scalar (.bool s.mutation.disableTransactions)

/-- The value of a setting for which a value of a layer is taken. -/
def take? : Setting → Yaml → Option Yaml
  | apiUrl => taken? Yaml.Scalar.toText? Yaml.text
  | disableTransactions => taken? Yaml.Scalar.toBool? fun b => .scalar (.bool b)
  | _ => taken? optionalText? textOrNone

/-- What a tree has for a setting. -/
def inTree? (x : Setting) (tree : Yaml) : Option Yaml :=
  (child? tree x.sectionName).bind (child? · x.fieldName)

/-- What a file has for a setting. An empty map is nothing. -/
def inFile? (x : Setting) (file : Layer) : Option Yaml :=
  (x.inTree? (.map file)).filter (· ≠ .map [])

/-- The value of a setting for which what is found for it is taken. Where nothing is, it has its
default. -/
def read? (x : Setting) (found : Option Yaml) : Option Yaml :=
  found.elim (some (x.shown {})) x.take?

/-- The value of a setting by its own layers: the text of its variable, else what the file has for
it, else its default. -/
def decided? (x : Setting) (file : Layer) (environment : List (String × String)) : Option Yaml :=
  match Keyed.find? environment x.variableName with
  | some text => x.take? (.text text)
  | none => x.read? (x.inFile? file)

/-- The section of a setting is a map in the end: the file has no scalar for it, or a variable sets
something in it. -/
def Stands (x : Setting) (file : Layer) (environment : List (String × String)) : Prop :=
  (∀ c, Keyed.find? file x.sectionName ≠ some (.scalar c)) ∨
    ∃ y : Setting, y.sectionName = x.sectionName ∧ y.variableName ∈ Keyed.keys environment

end Setting

/-- The keys of a file are names in lower case, and no section is a list. -/
structure IsPlain (file : Layer) : Prop where
  keys : ∀ key ∈ Keyed.keys file, IsPlainKey key
  lower (x : Setting) {v : Yaml} (found : Keyed.find? file x.sectionName = some v) :
    ∀ key ∈ Keyed.keys (entriesOf v), lowerKey key = key
  unlisted (x : Setting) (items : List Yaml) :
    Keyed.find? file x.sectionName ≠ some (.list items)

/-- Of the variables for settings, an environment sets those of the five alone, and each once. -/
structure SetsSettings (environment : List (String × String)) : Prop where
  nodup : (Keyed.keys environment).Nodup
  known : ∀ name ∈ Keyed.keys environment,
    variableKey? name = none ∨ ∃ x : Setting, name = x.variableName

/-! ## Variables -/

namespace Setting

/-- The key of the layer in which a variable sets a setting. -/
def key (x : Setting) : String := x.sectionName ++ "." ++ x.fieldName

theorem variableKey?_variableName (x : Setting) : variableKey? x.variableName = some x.key := by
  cases x <;> decide +kernel

theorem placeOf_key (x : Setting) : placeOf x.key = [.name x.sectionName, .name x.fieldName] := by
  cases x <;> decide +kernel

/-- No two settings share a variable. -/
theorem variableName_inj {x y : Setting} (same : x.variableName = y.variableName) : x = y := by
  cases x <;> cases y <;> first | rfl | exact absurd same (by decide)

theorem eq_of_names {x y : Setting} (sections : x.sectionName = y.sectionName)
    (fields : x.fieldName = y.fieldName) : x = y := by
  cases x <;> cases y <;>
    first | rfl | exact absurd sections (by decide) | exact absurd fields (by decide)

end Setting

/-- A text laid over a tree at the place of a setting. -/
def setText (x : Setting) (text : String) (tree : Yaml) : Yaml :=
  (Step.name x.sectionName).change (fun part =>
    (Step.name x.fieldName).change (fun _ => .text text) part) tree

theorem assign_key (x : Setting) (text : String) (tree : Yaml) :
    assign (placeOf x.key) (.text text) tree = setText x text tree := by
  rw [Setting.placeOf_key]
  simp [assign, setText, overlay, Yaml.text]

/-- A text put in the place of one setting is found there, and no other setting changes. -/
theorem inTree?_setText (x y : Setting) (text : String) (tree : Yaml) :
    y.inTree? (setText x text tree) = if x = y then some (.text text) else y.inTree? tree := by
  rw [Setting.inTree?, setText, child?_change]
  by_cases sections : x.sectionName = y.sectionName
  · rw [if_pos sections, Option.bind_some, child?_change, child?_getD, sections]
    by_cases fields : x.fieldName = y.fieldName
    · rw [if_pos fields, if_pos (Setting.eq_of_names sections fields)]
    · rw [if_neg fields, if_neg fun same : x = y => fields (same ▸ rfl)]
      rfl
  · rw [if_neg sections, if_neg fun same : x = y => sections (same ▸ rfl)]
    rfl

/-- The first variable of an environment is none of the settings', or it sets one that no later
variable sets. -/
theorem SetsSettings.cases {name text : String} {rest : List (String × String)}
    (sets : SetsSettings ((name, text) :: rest)) :
    SetsSettings rest ∧
      ((∀ x : Setting, name ≠ x.variableName) ∧
          ofVariables ((name, text) :: rest) = ofVariables rest ∨
        ∃ x : Setting, name = x.variableName ∧ Keyed.find? rest x.variableName = none ∧
          ∀ tree, (ofVariables ((name, text) :: rest)).over tree =
            (ofVariables rest).over (setText x text tree)) := by
  obtain ⟨fresh, nodup⟩ := List.nodup_cons.1 sets.nodup
  refine ⟨⟨nodup, fun name member => sets.known name (.tail _ member)⟩, ?_⟩
  obtain foreign | ⟨x, rfl⟩ := sets.known name (.head _)
  · refine .inl ⟨?_, by simp [ofVariables, foreign]⟩
    rintro x rfl
    rw [x.variableKey?_variableName] at foreign
    cases foreign
  · refine .inr ⟨x, rfl, Keyed.find?_eq_none.2 fresh, fun tree => ?_⟩
    simp [ofVariables, x.variableKey?_variableName, Layer.over, assign_key]

/-- The variables of an environment are laid over a tree: each setting has its variable's text, or
what it had before. -/
theorem inTree?_ofVariables {environment : List (String × String)}
    (sets : SetsSettings environment) (tree : Yaml) (x : Setting) :
    x.inTree? ((ofVariables environment).over tree) =
      ((Keyed.find? environment x.variableName).map Yaml.text).or (x.inTree? tree) := by
  induction environment generalizing tree with
  | nil => rfl
  | cons entry rest ih =>
    obtain ⟨setsRest, ⟨foreign, same⟩ | ⟨y, names, unset, step⟩⟩ := sets.cases
    · rw [same, ih setsRest, Keyed.find?, if_neg (foreign x)]
    · rw [step, ih setsRest, inTree?_setText, Keyed.find?, names]
      by_cases same : y = x
      · subst same
        rw [unset, if_pos rfl, if_pos rfl]
        rfl
      · rw [if_neg same, if_neg fun names => same (Setting.variableName_inj names)]

/-- A section becomes a map when a variable sets something in it, and is kept when none does. -/
theorem child?_ofVariables {environment : List (String × String)}
    (sets : SetsSettings environment) (tree : Yaml) (name : String) :
    ((∃ x : Setting, x.sectionName = name ∧ x.variableName ∈ Keyed.keys environment) ∧
        ∃ part, child? ((ofVariables environment).over tree) name = some (.map part)) ∨
      (¬ ∃ x : Setting, x.sectionName = name ∧ x.variableName ∈ Keyed.keys environment) ∧
        child? ((ofVariables environment).over tree) name = child? tree name := by
  induction environment generalizing tree with
  | nil => exact .inr ⟨by simp [Keyed.keys], rfl⟩
  | cons entry rest ih =>
    have keys : Keyed.keys (entry :: rest) = entry.1 :: Keyed.keys rest := rfl
    obtain ⟨setsRest, ⟨foreign, same⟩ | ⟨y, names, -, step⟩⟩ := sets.cases
    · have skipped (x : Setting) : x.variableName ∈ Keyed.keys (entry :: rest) ↔
          x.variableName ∈ Keyed.keys rest := by
        rw [keys, List.mem_cons, or_iff_right (foreign x).symm]
      simpa only [skipped, same] using ih setsRest tree
    · rw [step]
      obtain ⟨⟨x, inside, set⟩, map⟩ | ⟨unset, kept⟩ := ih setsRest (setText y entry.2 tree)
      · exact .inl ⟨⟨x, inside, .tail _ set⟩, map⟩
      · rw [setText, child?_change] at kept
        by_cases own : y.sectionName = name
        · rw [if_pos own] at kept
          exact .inl ⟨⟨y, own, by rw [keys, names]; exact .head _⟩, _, kept⟩
        · rw [if_neg own] at kept
          refine .inr ⟨?_, kept⟩
          rintro ⟨x, inside, set⟩
          obtain same | set := List.mem_cons.1 set
          · exact own (Setting.variableName_inj (names.symm.trans same.symm) ▸ inside)
          · exact unset ⟨x, inside, set⟩

/-! ## The file -/

/-- The tree of the defaults. -/
def defaultTree : Yaml := .map (toLayer {})

theorem toLayer_over : (toLayer {}).over (.map []) = defaultTree := by
  decide +kernel

/-- The tree of defaults has each setting in its section, as the default shows it. -/
theorem child?_defaultTree (x : Setting) :
    ∃ part, child? defaultTree x.sectionName = some (.map part) ∧
      Keyed.find? part x.fieldName = some (x.shown {}) := by
  cases x <;> exact ⟨_, rfl, rfl⟩

theorem taken?_textOrNone (text : Option String) :
    taken? optionalText? textOrNone (textOrNone text) = some (textOrNone text) := by
  cases text <;> rfl

theorem Setting.take?_shown (x : Setting) (s : Settings) :
    x.take? (x.shown s) = some (x.shown s) := by
  cases x with
  | apiUrl | disableTransactions => rfl
  | storeId | modelId | apiToken => exact taken?_textOrNone _

/-- A value laid over a default is taken alone, except an empty map, which leaves the default. -/
theorem Setting.take?_overlay (x : Setting) (v : Yaml) :
    x.take? (overlay v (x.shown {})) =
      if v = .map [] then some (x.shown {}) else x.take? v := by
  cases v with
  | scalar _ | list _ => simp [overlay]
  | map entries =>
    rw [overlay]
    cases entries with
    | nil =>
      rw [if_pos rfl, overlayEntries]
      exact x.take?_shown {}
    | cons entry rest =>
      obtain ⟨entries, same⟩ : IsMap (overlayEntries (entry :: rest) (x.shown {})) :=
        isMap_overlayEntries fun empty => absurd empty (List.cons_ne_nil entry rest)
      rw [if_neg (by simp), same]
      cases x <;> rfl

section File

variable {file : Layer}

/-- A plain file lays each of its sections over the defaults of that section. The other sections
keep theirs. -/
theorem child?_file (tidy : Yaml.IsTidy (.map file)) (plain : IsPlain file) (x : Setting) :
    ∃ part, Keyed.find? part x.fieldName = some (x.shown {}) ∧
      child? (file.over defaultTree) x.sectionName =
        match Keyed.find? file x.sectionName with
        | some v => some (overlay v (.map part))
        | none => some (.map part) := by
  obtain ⟨part, there, value⟩ := child?_defaultTree x
  have keys : HasLowerKeys file :=
    ⟨tidy.nodup_keys, fun key member => (plain.keys key member).lower⟩
  refine ⟨part, value, ?_⟩
  rw [Layer.over_eq_overlayEntries plain.keys, child?_overlayEntries keys, there]
  rfl

/-- Over the defaults, a file leaves for a setting what it has for it, and else the default. -/
theorem read?_file (tidy : Yaml.IsTidy (.map file)) (plain : IsPlain file) (x : Setting) :
    x.read? (x.inTree? (file.over defaultTree)) = x.read? (x.inFile? file) := by
  obtain ⟨part, value, there⟩ := child?_file tidy plain x
  have default : child? (.map part) x.fieldName = some (x.shown {}) := value
  have inside : child? (.map file) x.sectionName = Keyed.find? file x.sectionName := rfl
  rw [Setting.inFile?, Setting.inTree?, Setting.inTree?, there, inside]
  cases found : Keyed.find? file x.sectionName with
  | none => simp [default, Setting.read?, x.take?_shown]
  | some v =>
    cases v with
    | scalar _ => simp [overlay, child?, entriesOf, Keyed.find?]
    | list items => exact absurd found (plain.unlisted x items)
    | map entries =>
      have keys : HasLowerKeys entries := ⟨(tidy.of_find? found).nodup_keys, plain.lower x found⟩
      have own : child? (.map entries) x.fieldName = Keyed.find? entries x.fieldName := rfl
      simp only [Option.bind_some, overlay]
      rw [child?_overlayEntries keys, default, own]
      cases Keyed.find? entries x.fieldName with
      | none => exact x.take?_shown {}
      | some w =>
        refine (x.take?_overlay w).trans ?_
        by_cases empty : w = .map []
        · simp [empty, Option.filter, Setting.read?]
        · simp [empty, Option.filter, Setting.read?]

/-- A section of a file over the defaults is a scalar where the file has one, and else a map. -/
theorem child?_file_cases (tidy : Yaml.IsTidy (.map file)) (plain : IsPlain file) (x : Setting) :
    (∃ c, Keyed.find? file x.sectionName = some (.scalar c) ∧
        child? (file.over defaultTree) x.sectionName = some (.scalar c)) ∨
      (∀ c, Keyed.find? file x.sectionName ≠ some (.scalar c)) ∧
        ∃ part, child? (file.over defaultTree) x.sectionName = some (.map part) := by
  obtain ⟨part, -, there⟩ := child?_file tidy plain x
  rw [there]
  cases found : Keyed.find? file x.sectionName with
  | none => exact .inr ⟨by simp, part, rfl⟩
  | some v =>
    cases v with
    | scalar c => exact .inl ⟨c, rfl, by simp [overlay]⟩
    | list items => exact absurd found (plain.unlisted x items)
    | map entries =>
      obtain ⟨entries', same⟩ : IsMap (overlayEntries entries (.map part)) :=
        isMap_overlayEntries fun _ => ⟨part, rfl⟩
      exact .inr ⟨by simp, entries', by simp [overlay, same]⟩

end File

end Rebac.Settings
