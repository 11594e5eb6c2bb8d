import Rebac.Proofs.Naming.Idempotence
import Rebac.Proofs.Schema.Grammar
import Rebac.Proofs.Schema.Loaded

/-!
# Looking up in a loaded schema

A look-up answers with the first entry of a name. The names of a loaded schema differ, so each entry
of its document is found, as the one that was loaded from there, and none hides another. A relation
is found under every spelling of the name that the document gives it, but under its stored name only
where that is its own canonical form.
-/

namespace Rebac.Schema

/-! ## Entries and what they are loaded as -/

/-- What is written is read, with the names. -/
theorem relationEntries?_of_writes {written : Option Json} {layout : Layout}
    {entries : List (String × Json)} (writes : Writes SaysName written layout entries) :
    relationEntries? written = some (entries.map fun e => (some e.1, e.2)) := by
  cases writes with
  | absent | null | object => rfl
  | array each =>
    rename_i items names
    have read : items.map (fun item => (nonemptyText? (item.get? "name"), item)) =
        (names.zip items).map fun e => (some e.1, e.2) := by
      induction each with
      | nil => rfl
      | cons own _ ih =>
        rw [List.map_cons, List.zip_cons_cons, List.map_cons, ih, saysName_iff.mp own]
    exact congrArg some read

theorem Writes.unique {written : Option Json} {layout layout' : Layout}
    {entries entries' : List (String × Json)} (writes : Writes SaysName written layout entries)
    (writes' : Writes SaysName written layout' entries') : entries = entries' := by
  have same := (relationEntries?_of_writes writes).symm.trans (relationEntries?_of_writes writes')
  refine List.map_injective_iff.mpr (fun e e' eq => ?_) (Option.some.inj same)
  obtain ⟨name, value⟩ := Prod.mk.inj eq
  exact Prod.ext (Option.some.inj name) value

/-- So are parameters, with their declared types. -/
theorem parameterEntries?_of_writes {written : Option Json} {layout : Layout}
    {entries : List (String × Json)} (writes : Writes SaysName written layout entries) :
    parameterEntries? written =
      some (entries.map fun e => (some e.1, firstMember? e.2 layout.typeMembers)) := by
  cases writes with
  | absent | null => rfl
  | object members => simp only [parameterEntries?, Layout.typeMembers, firstMember?_pair]
  | array each =>
    rename_i items names
    simp only [parameterEntries?, Layout.typeMembers, firstMember?_pair]
    refine congrArg some ?_
    induction each with
    | nil => rfl
    | cons own _ ih =>
      rw [List.map_cons, List.zip_cons_cons, List.map_cons, ih, saysName_iff.mp own]

theorem forall₂_of_loadRelations {typeName : String} {metadata : Option Json} {position : Nat}
    {seen : List String} {written : List (String × Json)} {relations : List Relation}
    (ok : loadRelations typeName metadata position seen
      (written.map fun e => (some e.1, e.2)) = .ok relations) :
    List.Forall₂ (fun e r =>
      r = Relation.named e.1 (relationKind e.2 (metadata.bind (·.get? e.1)))) written
      relations := by
  induction written generalizing position seen relations with
  | nil =>
    cases ok
    exact .nil
  | cons e rest ih =>
    simp only [List.map_cons, loadRelations] at ok
    split at ok
    · cases ok
    · simp only [bind_eq_ok, pure_eq_ok] at ok
      obtain ⟨others, loaded, rfl⟩ := ok
      exact .cons rfl (ih loaded)

/-- Every entry is loaded, and the names of the types differ. -/
theorem forall₂_of_loadTypes {index : Nat} {seen : List String} {entries : List Json}
    {types : List TypeDefinition} (ok : loadTypes index seen entries = .ok types) :
    List.Forall₂ (fun entry t => ∃ place, loadType place entry = .ok t) entries types ∧
      (types.map (·.name)).Nodup ∧ ∀ n ∈ types.map (·.name), n ∉ seen := by
  induction entries generalizing index seen types with
  | nil =>
    cases ok
    exact ⟨.nil, List.nodup_nil, by simp⟩
  | cons entry rest ih =>
    simp only [loadTypes, bind_eq_ok] at ok
    obtain ⟨t, first, ok⟩ := ok
    split at ok
    · cases ok
    next fresh =>
      simp only [bind_eq_ok, pure_eq_ok] at ok
      obtain ⟨others, later, rfl⟩ := ok
      obtain ⟨each, distinct⟩ := ih later
      exact ⟨.cons ⟨index, first⟩ each, fresh_cons_iff.mpr ⟨fresh, distinct⟩⟩

/-- The kind that a type name declares: its own, or that of texts. -/
def DeclaresKind (typeName : String) (kind : ParameterKind) : Prop :=
  KindMapping.ofTypeName typeName = .exact kind ∨
    KindMapping.ofTypeName typeName = .fallback ∧ kind = .string

theorem loadParameter_eq_ok {condition name : String} {declared : Option Json} {p : Parameter} :
    loadParameter condition (some name, declared) = .ok p ↔
      p.name = name ∧
        ∃ typeName, declared = some (.str typeName) ∧ DeclaresKind typeName p.kind := by
  obtain ⟨own, kind⟩ := p
  simp only [loadParameter, ← Json.bind_str?_eq_some, DeclaresKind]
  cases declared.bind Json.str? with
  | none => simp
  | some typeName =>
    cases mapped : KindMapping.ofTypeName typeName <;> simp [mapped, eq_comm]

theorem forall₂_of_loadParameters {condition : String}
    {entries : List (Option String × Option Json)} {parameters : List Parameter}
    (ok : loadParameters condition entries = .ok parameters) :
    List.Forall₂ (fun e p => loadParameter condition e = .ok p) entries parameters := by
  induction entries generalizing parameters with
  | nil =>
    cases ok
    exact .nil
  | cons entry rest ih =>
    simp only [loadParameters, bind_eq_ok, pure_eq_ok] at ok
    obtain ⟨p, first, others, later, rfl⟩ := ok
    exact .cons first (ih later)

theorem forall₂_of_loadConditions {seen : List String} {entries : List (String × Json)}
    {conditions : List Condition} (ok : loadConditions seen entries = .ok conditions) :
    List.Forall₂ (fun e c => loadCondition e.1 e.2 = .ok c) entries conditions := by
  induction entries generalizing seen conditions with
  | nil =>
    cases ok
    exact .nil
  | cons entry rest ih =>
    simp only [loadConditions] at ok
    split at ok
    · cases ok
    · split at ok
      · cases ok
      · simp only [bind_eq_ok, pure_eq_ok] at ok
        obtain ⟨c, first, others, later, rfl⟩ := ok
        exact .cons first (ih later)

/-- A document writes a parameter here, and it is loaded as this one. -/
structure LoadsParameter (layout : Layout) (written : String × Json) (p : Parameter) : Prop where
  named : p.name = written.1
  declared : ∃ typeName, firstMember? written.2 layout.typeMembers = some (.str typeName) ∧
    DeclaresKind typeName p.kind

/-- A condition has the name that it is loaded under, and its expression and its parameters are
those of its entry. -/
theorem written_of_loadCondition {name : String} {entry : Json} {c : Condition}
    (ok : loadCondition name entry = .ok c) :
    c.name = name ∧ c.expression = (entry.get? "expression").bind Json.str? ∧
      ∃ layout written, Writes SaysName (entry.get? "parameters") layout written ∧
        List.Forall₂ (LoadsParameter layout) written c.parameters := by
  obtain ⟨layout, written, writes, -⟩ := loadCondition_succeeds.mp ⟨c, ok⟩
  simp only [loadCondition, parameterEntries?_of_writes writes, bind_eq_ok, pure_eq_ok] at ok
  obtain ⟨parameters, loaded, rfl⟩ := ok
  have each := forall₂_of_loadParameters loaded
  rw [List.forall₂_map_left_iff] at each
  refine ⟨rfl, rfl, layout, written, writes, each.imp fun e p loaded => ?_⟩
  obtain ⟨named, declared⟩ := loadParameter_eq_ok.mp loaded
  exact ⟨named, declared⟩

/-- The metadata that an entry of a type has for a relation. -/
def metadataOf (entry : Json) (relation : String) : Option Json :=
  ((entry.get? "metadata").bind (·.get? "relations")).bind (·.get? relation)

/-- A type has the name of its entry, and its relations are those of the entry. -/
theorem written_of_loadType {index : Nat} {entry : Json} {t : TypeDefinition}
    (ok : loadType index entry = .ok t) :
    firstMember? entry ["type", "name"] = some (.str t.name) ∧
      ∃ layout written, Writes SaysName (entry.get? "relations") layout written ∧
        List.Forall₂ (fun e r =>
          r = Relation.named e.1 (relationKind e.2 (metadataOf entry e.1))) written
          t.relations := by
  obtain ⟨named, -, layout, written, writes, -⟩ := loadType_succeeds.mp ⟨t, ok, rfl⟩
  obtain ⟨-, entries, read, loaded⟩ := loadType_eq_ok.mp ok
  cases read.symm.trans (relationEntries?_of_writes writes)
  exact ⟨named, layout, written, writes, forall₂_of_loadRelations loaded⟩

/-! ## Entries that are found -/

/-- The second of each pair is in the list of the second ones. -/
theorem forall₂_mem_right {α β : Type} {R : α → β → Prop} {xs : List α} {ys : List β}
    (each : List.Forall₂ R xs ys) : List.Forall₂ (fun x y => y ∈ ys ∧ R x y) xs ys :=
  ((List.forall₂_and_left ys xs).mpr ⟨fun _ mem => mem, each.flip⟩).flip

/-- Two parts of a list, each in its order, that have nothing in common and together have every
entry as often as the list. -/
structure Splits {α : Type} (all first second : List α) : Prop where
  inOrder : first.Sublist all ∧ second.Sublist all
  disjoint : first.Disjoint second
  together : (first ++ second).Perm all

theorem splits_filter {α : Type} {p q : α → Bool} (opposite : ∀ a, q a = !p a) (all : List α) :
    Splits all (all.filter p) (all.filter q) where
  inOrder := ⟨List.filter_sublist, List.filter_sublist⟩
  disjoint := by
    intro a mem mem'
    have both := (List.mem_filter.mp mem').2
    rw [opposite, (List.mem_filter.mp mem).2] at both
    cases both
  together := by
    rw [funext opposite]
    exact List.filter_append_perm p all

/-- A relation is loaded from what a document writes under a name, and it is found under every
spelling of that name. -/
structure FindsRelation (t : TypeDefinition) (entry : Json) (written : String × Json)
    (r : Relation) : Prop where
  named : r.name = Naming.canonical written.1
  kind : r.kind = relationKind written.2 (metadataOf entry written.1)
  found : ∀ spelling, Naming.canonical spelling = Naming.canonical written.1 →
    t.relation? spelling = some r

/-- A type is loaded from an entry and is found under its name, with the relations that the entry
writes. It splits them by their kinds. -/
structure FindsType (model : Model) (entry : Json) (t : TypeDefinition) : Prop where
  named : firstMember? entry ["type", "name"] = some (.str t.name)
  found : model.type? t.name = some t
  relations : ∃ layout written, Writes SaysName (entry.get? "relations") layout written ∧
    List.Forall₂ (FindsRelation t entry) written t.relations
  kinds : Splits t.relations t.direct t.computed
  direct : ∀ r ∈ t.direct, r.kind = .direct
  computed : ∀ r ∈ t.computed, r.kind = .computed

/-- A condition is loaded from an entry and is found under its name, with the parameters that the
entry writes. It splits them by the phases that the ends of their names tell. -/
structure FindsCondition (model : Model) (entry : String × Json) (c : Condition) : Prop where
  named : c.name = conditionName entry
  found : model.condition? c.name = some c
  expression : c.expression = (entry.2.get? "expression").bind Json.str?
  parameters : ∃ layout written, Writes SaysName (entry.2.get? "parameters") layout written ∧
    List.Forall₂ (LoadsParameter layout) written c.parameters
  phases : Splits c.parameters c.initParameters c.providedParameters
  provided : ∀ p ∈ c.providedParameters, Text.endsWith p.name providedTail = true
  init : ∀ p ∈ c.initParameters, Text.endsWith p.name providedTail = false

theorem findsRelation_of_mem {t : TypeDefinition} (named : WellNamed t.relations) {entry : Json}
    {written : String × Json} {r : Relation} (mem : r ∈ t.relations)
    (loaded : r = Relation.named written.1 (relationKind written.2 (metadataOf entry written.1))) :
    FindsRelation t entry written r where
  named := congrArg (·.name) loaded
  kind := congrArg (·.kind) loaded
  found spelling same := by
    have called : r.name = Naming.canonical spelling := by
      rw [same]
      exact congrArg (·.name) loaded
    rw [TypeDefinition.relation?, ← called]
    exact Keyed.find?_of_nodup_keys named.distinct mem

theorem findsTypes {document : Json} {model : Model} (loaded : Model.ofJson document = .ok model) :
    ∃ entries, document.get? "type_definitions" = some (.arr entries) ∧
      List.Forall₂ (FindsType model) entries model.types := by
  obtain ⟨entries, found, loadedTypes⟩ := Model.types_of_ofJson loaded
  obtain ⟨each, distinct, -⟩ := forall₂_of_loadTypes loadedTypes
  refine ⟨entries, bind_arr?_eq_some.mp found, (forall₂_mem_right each).imp ?_⟩
  rintro entry t ⟨mem, place, ok⟩
  obtain ⟨named, layout, written, writes, relations⟩ := written_of_loadType ok
  exact {
    named
    found := Keyed.find?_of_nodup_keys distinct mem
    relations := ⟨layout, written, writes, (forall₂_mem_right relations).imp fun _ _ here =>
      findsRelation_of_mem (Model.wellNamed_of_ofJson loaded t mem) here.1 here.2⟩
    kinds := splits_filter (fun r => by cases r.kind <;> rfl) t.relations
    direct := fun r own => of_decide_eq_true (List.mem_filter.mp own).2
    computed := fun r own => of_decide_eq_true (List.mem_filter.mp own).2 }

theorem phase_eq_provided_iff {p : Parameter} :
    p.phase = .provided ↔ Text.endsWith p.name providedTail = true := by
  unfold Parameter.phase
  split <;> simp_all

/-- The conditions of a loaded schema are those that its document writes. -/
theorem Model.conditions_of_ofJson {document : Json} {model : Model}
    (loaded : Model.ofJson document = .ok model) :
    ∃ entries, conditionEntries (document.get? "conditions") = .ok entries ∧
      loadConditions [] entries = .ok model.conditions := by
  unfold Model.ofJson at loaded
  split at loaded
  · split at loaded
    · cases loaded
    · simp only [bind_eq_ok, pure_eq_ok] at loaded
      obtain ⟨_, _, entries, read, conditions, loadedConditions, rfl⟩ := loaded
      exact ⟨entries, read, loadedConditions⟩
  · cases loaded

theorem findsConditions {document : Json} {model : Model}
    (loaded : Model.ofJson document = .ok model) :
    ∃ layout entries, Writes (fun entry name => ownName? entry = some name)
        (document.get? "conditions") layout entries ∧
      List.Forall₂ (FindsCondition model) entries model.conditions := by
  obtain ⟨_, read, loadedConditions⟩ := Model.conditions_of_ofJson loaded
  obtain ⟨layout, entries, writes, rfl⟩ := conditionEntries_eq_ok.mp read
  have each := forall₂_of_loadConditions loadedConditions
  have names : model.conditions.map (·.name) =
      (entries.map fun e => (conditionName e, e.2)).map (·.1) :=
    (map_eq_map_iff_forall₂.mpr (each.imp fun _ _ ok => (written_of_loadCondition ok).1.symm)).symm
  have distinct : (model.conditions.map (·.name)).Nodup :=
    names ▸ (loadConditions_succeeds.mp ⟨_, loadedConditions⟩).1.1
  rw [List.forall₂_map_left_iff] at each
  refine ⟨layout, entries, writes, (forall₂_mem_right each).imp ?_⟩
  rintro entry c ⟨mem, ok⟩
  obtain ⟨named, expression, parameters⟩ := written_of_loadCondition ok
  exact {
    named
    found := Keyed.find?_of_nodup_keys distinct mem
    expression
    parameters
    phases := splits_filter (fun p => by cases p.phase <;> rfl) c.parameters
    provided := fun p own =>
      phase_eq_provided_iff.mp (of_decide_eq_true (List.mem_filter.mp own).2)
    init := fun p own => by
      have phase : p.phase = .init := of_decide_eq_true (List.mem_filter.mp own).2
      rw [← Bool.not_eq_true, ← phase_eq_provided_iff, phase]
      decide }

/-- In a loaded schema nothing hides anything. The types, relations, conditions and parameters are
those of the document, in its order. Each type and condition is found under its name, and each
relation under every spelling of the name that the document gives it, as what was loaded from that
place. Relations are split by kind, and parameters by phase. -/
theorem ofJson_finds_every_entry {document : Json} {model : Model}
    (loaded : Model.ofJson document = .ok model) :
    (∃ entries, document.get? "type_definitions" = some (.arr entries) ∧
      List.Forall₂ (FindsType model) entries model.types) ∧
    ∃ layout entries, Writes (fun entry name => ownName? entry = some name)
        (document.get? "conditions") layout entries ∧
      List.Forall₂ (FindsCondition model) entries model.conditions :=
  ⟨findsTypes loaded, findsConditions loaded⟩

/-- Relations and a condition that are not written under the names that they are stored under. -/
theorem ofJson_finds_every_entry_spelt :
    let document : Json := .obj [
      ("type_definitions", .arr [.obj [("type", .str "form"),
        ("relations", .obj [("HTTPReader", .obj [("this", .obj [])]), ("free-trial", .obj [])])]]),
      ("conditions", .obj [("first", .obj [("name", .str "trial"),
        ("parameters", .arr [.obj [("name", .str "start"), ("type", .str "timestamp")],
          .obj [("name", .str "now_provided"), ("type", .str "TYPE_NAME_IPADDRESS")]])])])]
    let model : Model := ⟨"1.1",
      [⟨"form", [⟨"http_reader", .direct⟩, ⟨"free_trial", .computed⟩]⟩],
      [⟨"trial", none, [⟨"start", .timestamp⟩, ⟨"now_provided", .string⟩]⟩]⟩
    Model.ofJson document = .ok model ∧
      (∃ entries, document.get? "type_definitions" = some (.arr entries) ∧
        List.Forall₂ (FindsType model) entries model.types) ∧
      ∃ layout entries, Writes (fun entry name => ownName? entry = some name)
          (document.get? "conditions") layout entries ∧
        List.Forall₂ (FindsCondition model) entries model.conditions := by
  intro document model
  have loaded : Model.ofJson document = .ok model := by decide +kernel
  exact ⟨loaded, ofJson_finds_every_entry loaded⟩

/-! ## Stored names -/

/-- A relation is found under its stored name just where that is its own canonical form. -/
theorem relation?_stored_iff {t : TypeDefinition} (named : WellNamed t.relations) {r : Relation}
    (mem : r ∈ t.relations) :
    t.relation? r.name = some r ↔ Naming.canonical r.name = r.name := by
  rw [TypeDefinition.relation?]
  constructor
  · intro found
    have same := List.find?_some found
    exact (of_decide_eq_true same).symm
  · intro same
    rw [same]
    exact Keyed.find?_of_nodup_keys named.distinct mem

/-- A canonical form is its own canonical form exactly where no capital of the name breaks late, so
it is where every capital has a lower-case form, and a second canonical form always is. A relation
that a document calls by the name is always found under it. Under its stored name it is found
exactly where that is its own canonical form. -/
theorem stored_name_settles_iff (name : String) :
    (Naming.canonical (Naming.canonical name) = Naming.canonical name ↔
      ∀ before c after, name.toList = before ++ c :: after →
        ¬ Naming.BreaksLate before.getLast? c after) ∧
    ((∀ c ∈ name.toList, Text.isLasting c = false) →
      Naming.canonical (Naming.canonical name) = Naming.canonical name) ∧
    Naming.canonical (Naming.canonical (Naming.canonical name)) =
      Naming.canonical (Naming.canonical name) ∧
    ∀ document model, Model.ofJson document = .ok model → ∀ t ∈ model.types,
      ∀ r ∈ t.relations, r.name = Naming.canonical name →
        t.relation? name = some r ∧
          (t.relation? r.name = some r ↔
            Naming.canonical (Naming.canonical name) = Naming.canonical name) := by
  refine ⟨Naming.canonical_canonical_iff, Naming.canonical_canonical, Naming.canonical_thrice name,
    fun document model loaded t typed r mem called => ?_⟩
  have named := Model.wellNamed_of_ofJson loaded t typed
  constructor
  · rw [TypeDefinition.relation?, ← called]
    exact Keyed.find?_of_nodup_keys named.distinct mem
  · rw [relation?_stored_iff named mem, called]

/-- A document with one relation, which is computed. -/
def computedDocument (name : String) : Json :=
  .obj [("type_definitions", .arr [
    .obj [("type", .str "form"), ("relations", .obj [(name, .obj [])])]])]

/-- A capital that has no small form may stand in a name. Here it starts a word already, so the
stored name settles and finds the relation. -/
theorem stored_name_settles_iff_word :
    let t : TypeDefinition := ⟨"form", [⟨"my_ℝ_value", .computed⟩]⟩
    Model.ofJson (computedDocument "MyℝValue") = .ok ⟨"1.1", [t], []⟩ ∧
      t.relation? "MyℝValue" = some ⟨"my_ℝ_value", .computed⟩ ∧
      t.relation? "my_ℝ_value" = some ⟨"my_ℝ_value", .computed⟩ := by
  intro t
  have loaded : Model.ofJson (computedDocument "MyℝValue") = .ok ⟨"1.1", [t], []⟩ := by
    decide +kernel
  have called : "my_ℝ_value" = Naming.canonical "MyℝValue" := by decide +kernel
  have settled : Naming.canonical (Naming.canonical "MyℝValue") = Naming.canonical "MyℝValue" := by
    decide +kernel
  obtain ⟨-, -, -, finds⟩ := stored_name_settles_iff "MyℝValue"
  obtain ⟨found, stored⟩ := finds _ _ loaded t List.mem_cons_self ⟨"my_ℝ_value", .computed⟩
    List.mem_cons_self called
  exact ⟨loaded, found, stored.mpr settled⟩

/-- A capital that stays one follows a small letter in the canonical form, where it starts a word.
So the relation is not found under its stored name. -/
theorem canonical_starts_word_late :
    let t : TypeDefinition := ⟨"form", [⟨"aℝ", .computed⟩]⟩
    Naming.canonical "Aℝ" = "aℝ" ∧ Naming.canonical (Naming.canonical "Aℝ") = "a_ℝ" ∧
      Naming.canonical (Naming.canonical "Aℝ") ≠ Naming.canonical "Aℝ" ∧
      Model.ofJson (computedDocument "Aℝ") = .ok ⟨"1.1", [t], []⟩ ∧ t.relation? "aℝ" = none := by
  decide +kernel

end Rebac.Schema
