import Rebac.Proofs.Except
import Rebac.Proofs.Settings.Setting
import Rebac.Settings.Load

/-!
# Settings apart from each other

Reading the tree of the layers takes for each setting what stands at its place. The main statement
says which settings a file and an environment load to, setting by setting, so that no variable
changes another setting than its own.
-/

namespace Rebac.Settings

/-! ## Reading the tree -/

theorem takeScalar_eq_ok {α : Type} {take : Yaml.Scalar → Option α} {key : String} {v : Yaml}
    {a : α} : takeScalar take key v = .ok a ↔ ∃ c, v = .scalar c ∧ take c = some a := by
  cases v with
  | scalar c => cases taken : take c <;> simp [takeScalar, taken]
  | list _ | map _ => simp [takeScalar]

/-- A value that is taken and shown again is the one that was taken, since no two values are shown
alike. -/
theorem taken?_eq_some {α : Type} {take : Yaml.Scalar → Option α} {form : α → Yaml}
    (inj : Function.Injective form) {v : Yaml} {a : α} :
    taken? take form v = some (form a) ↔ ∃ c, v = .scalar c ∧ take c = some a := by
  cases v with
  | scalar c => simp [taken?, inj.eq_iff]
  | list _ | map _ => simp [taken?]

theorem text_inj : Function.Injective Yaml.text := by
  intro a b same
  cases same
  rfl

theorem truth_inj : Function.Injective fun b => Yaml.scalar (.bool b) := by
  intro a b same
  cases same
  rfl

theorem textOrNone_inj : Function.Injective textOrNone := by
  intro a b same
  cases a <;> cases b <;> simp_all [textOrNone, Yaml.text, Yaml.null]

namespace Section

variable {α : Type} {s : Section} {field : String}

/-- What a section has for a field. -/
def value? (s : Section) (field : String) : Option Yaml := (Keyed.find? s.fields field).map Prod.snd

theorem exists_of_map (name : String) (fieldNames : List String) (entries : List (String × Yaml)) :
    ∃ s : Section, Section.of name fieldNames (.map entries) = .ok s ∧ s.byName = true ∧
      ∀ field, s.value? field = child? (.map entries) field := by
  refine ⟨_, rfl, rfl, fun field => ?_⟩
  simp only [value?, child?, entriesOf]
  induction entries with
  | nil => rfl
  | cons entry rest ih =>
    rw [List.map_cons, Keyed.find?, Keyed.find?]
    split
    · rfl
    · exact ih

theorem defaulted_eq_ok {fallback a : α} {take : Yaml.Scalar → Option α} {form : α → Yaml}
    (inj : Function.Injective form) :
    s.defaulted field fallback take = .ok a ↔
      (s.value? field).elim (some (form fallback)) (taken? take form) = some (form a) := by
  rw [defaulted, value?]
  cases Keyed.find? s.fields field with
  | none => simp [inj.eq_iff]
  | some entry => exact takeScalar_eq_ok.trans (taken?_eq_some inj).symm

theorem optional_eq_ok {a : Option String} (named : s.byName = true) :
    s.optional field Yaml.Scalar.toText? = .ok a ↔
      (s.value? field).elim (some (textOrNone none)) (taken? optionalText? textOrNone) =
        some (textOrNone a) := by
  rw [optional, value?]
  cases Keyed.find? s.fields field with
  | none => simp [named, textOrNone_inj.eq_iff]
  | some entry =>
    obtain ⟨key, v⟩ := entry
    cases v with
    | list _ | map _ => simp [takeScalar, Except.map, taken?]
    | scalar c =>
      cases c with
      | null => simp [taken?, optionalText?, textOrNone_inj.eq_iff]
      | bool _ | int _ | real _ | text _ =>
        simp [map_eq_ok, takeScalar_eq_ok, taken?, optionalText?, Yaml.Scalar.toText?,
          textOrNone_inj.eq_iff]

end Section

/-- The connection is read from its section setting by setting, each under its own name. -/
theorem Connection.ofTree_eq_ok {part : List (String × Yaml)} {c : Connection} :
    Connection.ofTree (.map part) = .ok c ↔
      ∀ x : Setting, x.sectionName = "engine" →
        x.read? (child? (.map part) x.fieldName) = some (x.shown ⟨c, {}⟩) := by
  obtain ⟨s, read, named, value⟩ := Section.exists_of_map "engine" connectionFields part
  rw [Connection.ofTree, read, ok_bind]
  simp only [bind_eq_ok, pure_eq_ok, Section.defaulted_eq_ok text_inj,
    Section.optional_eq_ok named, value]
  constructor
  · rintro ⟨url, readUrl, store, readStore, model, readModel, token, readToken, rfl⟩ x own
    cases x with
    | apiUrl => exact readUrl
    | storeId => exact readStore
    | modelId => exact readModel
    | apiToken => exact readToken
    | disableTransactions => exact absurd own (by decide)
  · intro reads
    exact ⟨c.apiUrl, reads .apiUrl rfl, c.storeId, reads .storeId rfl, c.modelId,
      reads .modelId rfl, c.apiToken, reads .apiToken rfl, rfl⟩

theorem Sending.ofTree_eq_ok {part : List (String × Yaml)} {m : Sending} :
    Sending.ofTree (.map part) = .ok m ↔
      Setting.disableTransactions.read? (child? (.map part) "disable_transactions") =
        some (Setting.disableTransactions.shown ⟨{}, m⟩) := by
  obtain ⟨s, read, -, value⟩ := Section.exists_of_map "mutation" sendingFields part
  rw [Sending.ofTree, read, ok_bind]
  simp only [bind_eq_ok, pure_eq_ok, Section.defaulted_eq_ok truth_inj, value]
  constructor
  · rintro ⟨disables, readDisables, rfl⟩
    exact readDisables
  · intro reads
    exact ⟨m.disableTransactions, reads, rfl⟩

theorem sectionOf_eq {name : String} {tree v : Yaml} (there : child? tree name = some v) :
    sectionOf name tree = v :=
  congrArg (·.getD (.map [])) there

/-- A tree that maps both sections is read exactly where each setting is read from its own place. -/
theorem ofTree_eq_ok {tree : Yaml} {s : Settings}
    (maps : ∀ x : Setting, ∃ part, child? tree x.sectionName = some (.map part)) :
    ofTree tree = .ok s ↔ ∀ x : Setting, x.read? (x.inTree? tree) = some (x.shown s) := by
  obtain ⟨part, engine⟩ : ∃ part, child? tree "engine" = some (.map part) := maps .apiUrl
  obtain ⟨part', mutation⟩ : ∃ part, child? tree "mutation" = some (.map part) :=
    maps .disableTransactions
  have value (x : Setting) (own : x.sectionName = "engine") :
      x.inTree? tree = child? (.map part) x.fieldName := by
    rw [Setting.inTree?, own, engine]
    rfl
  have value' : Setting.disableTransactions.inTree? tree =
      child? (.map part') "disable_transactions" := by
    exact congrArg (·.bind (child? · "disable_transactions")) mutation
  rw [ofTree, sectionOf_eq engine, sectionOf_eq mutation]
  simp only [bind_eq_ok, pure_eq_ok, Connection.ofTree_eq_ok, Sending.ofTree_eq_ok]
  constructor
  · rintro ⟨c, connects, m, sends, rfl⟩ x
    cases x with
    | disableTransactions => exact value' ▸ sends
    | apiUrl => exact value .apiUrl rfl ▸ connects .apiUrl rfl
    | storeId => exact value .storeId rfl ▸ connects .storeId rfl
    | modelId => exact value .modelId rfl ▸ connects .modelId rfl
    | apiToken => exact value .apiToken rfl ▸ connects .apiToken rfl
  · intro reads
    refine ⟨s.engine, fun x own => ?_, s.mutation, value' ▸ reads .disableTransactions, rfl⟩
    have read := reads x
    rw [value x own] at read
    cases x with
    | disableTransactions => exact absurd own (by decide)
    | apiUrl | storeId | modelId | apiToken => exact read

/-- A section that is a scalar cannot be read. -/
theorem ofTree_ne_ok {tree : Yaml} {x : Setting} {c : Yaml.Scalar}
    (there : child? tree x.sectionName = some (.scalar c)) (s : Settings) :
    ofTree tree ≠ .ok s := by
  intro read
  obtain ⟨engine, connects, read⟩ := bind_eq_ok.1 read
  obtain ⟨mutation, sends, -⟩ := bind_eq_ok.1 read
  cases x with
  | disableTransactions =>
    have scalar : sectionOf "mutation" tree = .scalar c := sectionOf_eq there
    rw [scalar] at sends
    cases sends
  | apiUrl | storeId | modelId | apiToken =>
    have scalar : sectionOf "engine" tree = .scalar c := sectionOf_eq there
    rw [scalar] at connects
    cases connects

/-! ## Loading -/

/-- The check changes nothing: it gives the settings back or fails. -/
theorem checked_eq_ok {s s' : Settings} : s.checked = .ok s' ↔ s = s' ∧ s.fault? = none := by
  rw [checked]
  split
  · next sound => simp [sound]
  · next faulty => simp [faulty]

theorem readLayer_eq_ok {text : String} {file : Layer} :
    readLayer text = .ok file ↔ Yaml.read? text = some (.map file) := by
  unfold readLayer
  cases Yaml.read? text with
  | none => simp
  | some v => cases v <;> simp

section Layers

variable {file : Layer} {environment : List (String × String)}
  (tidy : Yaml.IsTidy (.map file)) (plain : IsPlain file) (sets : SetsSettings environment)

include tidy plain sets

/-- What is read for a setting is decided by its own layers. -/
theorem read?_treeOf (x : Setting) :
    x.read? (x.inTree? (treeOf file environment)) = x.decided? file environment := by
  rw [treeOf, toLayer_over, inTree?_ofVariables sets, Setting.decided?]
  cases Keyed.find? environment x.variableName with
  | some text => rfl
  | none => exact read?_file tidy plain x

/-- A section of all layers is a map where it stands, and else a scalar. -/
theorem child?_treeOf (x : Setting) :
    x.Stands file environment ∧
        (∃ part, child? (treeOf file environment) x.sectionName = some (.map part)) ∨
      ¬ x.Stands file environment ∧
        ∃ c, child? (treeOf file environment) x.sectionName = some (.scalar c) := by
  rw [treeOf, toLayer_over]
  obtain ⟨set, map⟩ | ⟨unset, kept⟩ :=
    child?_ofVariables sets (file.over defaultTree) x.sectionName
  · exact .inl ⟨.inr set, map⟩
  · rw [kept]
    obtain ⟨c, found, scalar⟩ | ⟨free, map⟩ := child?_file_cases tidy plain x
    · exact .inr ⟨not_or.2 ⟨fun free => free c found, unset⟩, c, scalar⟩
    · exact .inl ⟨.inl free, map⟩

/-- Settings load from two layers exactly where each one stands and is decided, and the whole has no
fault. -/
theorem ofLayers_eq_ok {s : Settings} :
    ofLayers file environment = .ok s ↔
      (∀ x : Setting, x.Stands file environment ∧
        x.decided? file environment = some (x.shown s)) ∧ s.fault? = none := by
  have checks : ofLayers file environment = .ok s ↔
      ofTree (treeOf file environment) = .ok s ∧ s.fault? = none := by
    rw [ofLayers, bind_eq_ok]
    simp only [checked_eq_ok]
    constructor
    · rintro ⟨_, read, rfl, sound⟩
      exact ⟨read, sound⟩
    · rintro ⟨read, sound⟩
      exact ⟨s, read, rfl, sound⟩
  rw [checks]
  refine and_congr_left fun _ => ?_
  by_cases stands : ∀ x : Setting, x.Stands file environment
  · have maps (x : Setting) :
        ∃ part, child? (treeOf file environment) x.sectionName = some (.map part) := by
      obtain ⟨-, map⟩ | ⟨falls, -⟩ := child?_treeOf tidy plain sets x
      · exact map
      · exact absurd (stands x) falls
    simp only [ofTree_eq_ok maps, read?_treeOf tidy plain sets, stands, true_and]
  · obtain ⟨x, falls⟩ := not_forall.1 stands
    obtain ⟨stands, -⟩ | ⟨-, c, scalar⟩ := child?_treeOf tidy plain sets x
    · exact absurd stands falls
    · exact iff_of_false (ofTree_ne_ok scalar s) fun all => falls (all x).1

end Layers

/-- A file that is read is one more layer; its path is for messages alone. -/
theorem load_eq_ofLayers {text : String} {file : Layer} (read : readLayer text = .ok file)
    (path : String) (environment : List (String × String)) :
    load path (some text) environment = ofLayers file environment := by
  simp only [load, read, ok_bind]

/-- Loading from the environment alone is loading an empty file with it. -/
theorem ofEnvironment_eq_load_empty (path : String) (environment : List (String × String)) :
    ofEnvironment environment = load path (some "") environment := by
  have nothing : readLayer "" = .ok [] := by decide +kernel
  exact (load_eq_ofLayers nothing path environment).symm

/-- A file and an environment load to settings exactly if each section is a map in the end, each
setting has the value that its own layers decide, and the settings have no fault. So two
environments that agree on the variable of a setting agree on it. The settings of an environment
alone are those over an empty document. -/
theorem load_decides_each_setting {path text : String} {file : Layer}
    {environment : List (String × String)} (read : readLayer text = .ok file)
    (plain : IsPlain file) (sets : SetsSettings environment) :
    (∀ s, load path (some text) environment = .ok s ↔
      (∀ x : Setting, x.Stands file environment ∧
        x.decided? file environment = some (x.shown s)) ∧ s.fault? = none) ∧
    (∀ environment' s s', SetsSettings environment' →
      load path (some text) environment = .ok s → load path (some text) environment' = .ok s' →
      ∀ x : Setting, Keyed.find? environment x.variableName =
        Keyed.find? environment' x.variableName → x.shown s = x.shown s') ∧
    ∀ path' environment', ofEnvironment environment' = load path' (some "") environment' := by
  have tidy := Yaml.isTidy_of_read? (readLayer_eq_ok.1 read)
  have loads {environment' : List (String × String)} (sets' : SetsSettings environment')
      (s : Settings) : load path (some text) environment' = .ok s ↔
        (∀ x : Setting, x.Stands file environment' ∧
          x.decided? file environment' = some (x.shown s)) ∧ s.fault? = none := by
    rw [load_eq_ofLayers read]
    exact ofLayers_eq_ok tidy plain sets'
  refine ⟨loads sets, ?_, ofEnvironment_eq_load_empty⟩
  intro environment' s s' sets' loaded loaded' x agree
  have decided := (((loads sets s).1 loaded).1 x).2
  have decided' := (((loads sets' s').1 loaded').1 x).2
  have same : x.decided? file environment = x.decided? file environment' := by
    rw [Setting.decided?, Setting.decided?, agree]
  exact Option.some.inj (decided.symm.trans (same.trans decided'))

/-- The file leaves a token null and a whole section empty, and one variable is none of the
program's. Each setting is decided on its own all the same. -/
theorem load_decides_each_setting_null_section :
    readLayer "engine:\n  store_id: s1\n  api_token: null\nmutation:\n" =
        .ok [("engine", .map [("store_id", .text "s1"), ("api_token", .null)]),
          ("mutation", .null)] ∧
      load "fga.yaml" (some "engine:\n  store_id: s1\n  api_token: null\nmutation:\n")
          [("HOME", "/"), ("FGA_MUTATION__DISABLE_TRANSACTIONS", "yes")] =
        .ok ⟨{ storeId := some "s1" }, ⟨true⟩⟩ ∧
      ∀ x : Setting,
        x.decided?
            [("engine", .map [("store_id", .text "s1"), ("api_token", .null)]), ("mutation", .null)]
            [("HOME", "/"), ("FGA_MUTATION__DISABLE_TRANSACTIONS", "yes")] =
          some (x.shown ⟨{ storeId := some "s1" }, ⟨true⟩⟩) := by
  have read : readLayer "engine:\n  store_id: s1\n  api_token: null\nmutation:\n" =
      .ok [("engine", .map [("store_id", .text "s1"), ("api_token", .null)]),
        ("mutation", .null)] := by
    decide +kernel
  have loaded : load "fga.yaml" (some "engine:\n  store_id: s1\n  api_token: null\nmutation:\n")
      [("HOME", "/"), ("FGA_MUTATION__DISABLE_TRANSACTIONS", "yes")] =
        .ok ⟨{ storeId := some "s1" }, ⟨true⟩⟩ := by
    decide +kernel
  have plain : IsPlain [("engine", .map [("store_id", .text "s1"), ("api_token", .null)]),
      ("mutation", .null)] := by
    refine ⟨?_, ?_, ?_⟩
    · intro key member
      obtain rfl | rfl : key = "engine" ∨ key = "mutation" := by simpa [Keyed.keys] using member
      · exact ⟨by decide +kernel, by decide, by decide⟩
      · exact ⟨by decide +kernel, by decide, by decide⟩
    · intro x v found key member
      cases x with
      | disableTransactions =>
        cases found
        cases member
      | _ =>
        cases found
        obtain rfl | rfl : key = "store_id" ∨ key = "api_token" := by
          simpa [Keyed.keys, entriesOf] using member
        · decide +kernel
        · decide +kernel
    · intro x items
      cases x <;> simp [Setting.sectionName, Keyed.find?, Yaml.null]
  have sets : SetsSettings
      [("HOME", "/"), (Setting.disableTransactions.variableName, "yes")] := by
    refine ⟨by decide, ?_⟩
    intro name member
    obtain rfl | rfl := by simpa [Keyed.keys] using member
    · exact .inl (by decide +kernel)
    · exact .inr ⟨.disableTransactions, rfl⟩
  have decided := ((load_decides_each_setting read plain sets).1 _).1 loaded
  exact ⟨read, loaded, fun x => (decided.1 x).2⟩

/-- A section given as a list is read by place, and a variable replaces it as a whole. An empty map
under a key leaves what stands there. -/
theorem listed_sections_are_not_decided_apart :
    let listed : Layer := [("engine", .list [.text "http://a", .text "s", .text "m", .text "t"])]
    let placed : Settings := { engine := ⟨"http://a", some "s", some "m", some "t"⟩ }
    let replaced : Settings := { engine := { storeId := some "s2" } }
    let emptied : Layer := [("mutation", .map [("disable_transactions", .map [])])]
    (readLayer "engine: [http://a, s, m, t]\n" = .ok listed ∧
      load "fga.yaml" (some "engine: [http://a, s, m, t]\n") [] = .ok placed ∧
      Setting.apiUrl.decided? listed [] ≠ some (Setting.apiUrl.shown placed) ∧
      load "fga.yaml" (some "engine: [http://a, s, m, t]\n") [("FGA_ENGINE__STORE_ID", "s2")] =
        .ok replaced ∧
      Setting.apiUrl.shown placed ≠ Setting.apiUrl.shown replaced) ∧
    readLayer "mutation:\n  disable_transactions: \x7b\x7d\n" = .ok emptied ∧
      load "fga.yaml" (some "mutation:\n  disable_transactions: \x7b\x7d\n") [] = .ok {} ∧
      Setting.disableTransactions.inTree? (.map emptied) = some (.map []) ∧
      Setting.disableTransactions.take? (.map []) = none := by
  intro listed placed replaced emptied
  refine ⟨⟨?_, ?_, ?_, ?_, ?_⟩, ?_, ?_, rfl, rfl⟩ <;> decide +kernel

end Rebac.Settings
