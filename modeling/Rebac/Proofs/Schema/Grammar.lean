import Rebac.Proofs.Except
import Rebac.Proofs.Json.Record
import Rebac.Proofs.Text.Affix
import Rebac.Schema.Document

/-!
# The grammar of schema documents

Which documents are schemas, said of the documents alone: what stands under which member, which
names differ, and which types a parameter may have. Loading accepts exactly these.
-/

namespace Rebac.Schema

/-! ## What a document may write -/

/-- The text that an entry has under `name`. -/
def ownName? (entry : Json) : Option String := (entry.get? "name").bind Json.str?

/-- An entry says its name, which is not empty. -/
def SaysName (entry : Json) (name : String) : Prop := ownName? entry = some name ∧ name ≠ ""

/-- The value under the first of these names that is a member. -/
def firstMember? (entry : Json) (names : List String) : Option Json := names.findSome? entry.get?

/-- Whether entries stand in an object under their keys, or in an array. -/
inductive Layout where
  | keyed
  | listed

/-- Entries as a document may write them: not at all, in an object under their keys, or in an array
whose items are named. -/
inductive Writes (named : Json → String → Prop) :
    Option Json → Layout → List (String × Json) → Prop where
  | absent : Writes named none .keyed []
  | null : Writes named (some .null) .keyed []
  | object (members : List (String × Json)) : Writes named (some (.obj members)) .keyed members
  | array {items : List Json} {names : List String} (each : List.Forall₂ named items names) :
    Writes named (some (.arr items)) .listed (names.zip items)

/-- An entry is a type with this name, whose relations have different canonical names. -/
structure IsType (entry : Json) (name : String) : Prop where
  named : firstMember? entry ["type", "name"] = some (.str name)
  nonempty : name ≠ ""
  relations : ∃ layout entries, Writes SaysName (entry.get? "relations") layout entries ∧
    (entries.map fun e => Naming.canonical e.1).Nodup

/-- A type name is that of a collection, in its short form or its long one. -/
def IsCollection (typeName : String) : Prop :=
  ∃ lead ∈ ["", "TYPE_NAME_"], ∃ short, typeName = lead ++ short ∧
    Text.asciiLower short ∈ ["list", "map"]

/-- The members that may declare the type of a parameter. The first that is there counts. -/
def Layout.typeMembers : Layout → List String
  | .keyed => ["type_name", "type"]
  | .listed => ["type", "type_name"]

/-- An entry declares the type of a parameter, which is no collection. -/
def IsParameter (layout : Layout) (entry : Json) : Prop :=
  ∃ typeName, firstMember? entry layout.typeMembers = some (.str typeName) ∧
    ¬ IsCollection typeName

/-- An entry is a condition with parameters. -/
def IsCondition (entry : Json) : Prop :=
  ∃ layout entries, Writes SaysName (entry.get? "parameters") layout entries ∧
    ∀ e ∈ entries, IsParameter layout e.2

/-- The name of a condition: its own, or else its key. -/
def conditionName (entry : String × Json) : String := (ownName? entry.2).getD entry.1

/-- A document is a schema. -/
structure IsSchema (document : Json) : Prop where
  isObject : ∃ members, document = .obj members
  types : ∃ entries names, document.get? "type_definitions" = some (.arr entries) ∧
    List.Forall₂ IsType entries names ∧ names.Nodup
  conditions : ∃ layout entries,
    Writes (fun entry name => ownName? entry = some name) (document.get? "conditions") layout
      entries ∧
    (entries.map conditionName).Nodup ∧
    ∀ e ∈ entries, conditionName e ≠ "" ∧ IsCondition e.2

/-! ## Entries with names -/

theorem map_eq_map_iff_forall₂ {α β γ : Type} {f : α → γ} {g : β → γ} {xs : List α} {ys : List β} :
    xs.map f = ys.map g ↔ List.Forall₂ (fun x y => f x = g y) xs ys := by
  rw [← List.forall₂_eq_eq_eq, List.forall₂_map_left_iff, List.forall₂_map_right_iff]

/-- Where every item has a name, the items have names. -/
theorem exists_forall₂_iff {α β : Type} {named : α → β → Prop} {xs : List α} :
    (∃ ys, List.Forall₂ named xs ys) ↔ ∀ x ∈ xs, ∃ y, named x y := by
  induction xs with
  | nil => simp
  | cons x xs ih =>
    rw [List.forall_mem_cons, ← ih]
    constructor
    · rintro ⟨_, first | ⟨first, later⟩⟩
      exact ⟨⟨_, first⟩, _, later⟩
    · rintro ⟨⟨y, first⟩, ys, later⟩
      exact ⟨y :: ys, .cons first later⟩

theorem map_fst_zip_of_forall₂ {α β : Type} {named : α → β → Prop} {items : List α}
    {names : List β} (each : List.Forall₂ named items names) :
    (names.zip items).map (·.1) = names :=
  List.map_fst_zip (Nat.le_of_eq each.length_eq.symm)

theorem forall_mem_zip_of_forall₂ {α β : Type} {named : α → β → Prop} {items : List α}
    {names : List β} (each : List.Forall₂ named items names) {p : α → Prop} :
    (∀ e ∈ names.zip items, p e.2) ↔ ∀ item ∈ items, p item := by
  have same : (names.zip items).map (·.2) = items :=
    List.map_snd_zip (Nat.le_of_eq each.length_eq)
  rw [← same, List.forall_mem_map, same]

theorem bind_arr?_eq_some {j : Option Json} {items : List Json} :
    j.bind Json.arr? = some items ↔ j = some (.arr items) := by
  rcases j with _ | _ | _ | _ | _ | _ | _ | _ <;> simp [Json.arr?]

theorem nonemptyText?_eq_some {j : Option Json} {text : String} :
    nonemptyText? j = some text ↔ j = some (.str text) ∧ text ≠ "" := by
  simp [nonemptyText?, Option.filter_eq_some_iff, Json.bind_str?_eq_some]

theorem saysName_iff {entry : Json} {name : String} :
    SaysName entry name ↔ nonemptyText? (entry.get? "name") = some name := by
  rw [SaysName, ownName?, Json.bind_str?_eq_some, nonemptyText?_eq_some]

theorem firstMember?_pair (entry : Json) (first second : String) :
    firstMember? entry [first, second] = (entry.get? first).or (entry.get? second) := by
  cases found : entry.get? first <;> cases found' : entry.get? second <;>
    simp [firstMember?, found, found']

/-- A name in front is new, and differs from the later ones, which are new too. -/
theorem fresh_cons_iff {name : String} {names seen : List String} :
    ((name :: names).Nodup ∧ ∀ n ∈ name :: names, n ∉ seen) ↔
      name ∉ seen ∧ names.Nodup ∧ ∀ n ∈ names, n ∉ name :: seen := by
  rw [List.nodup_cons, List.forall_mem_cons]
  simp only [List.mem_cons, not_or]
  constructor
  · rintro ⟨⟨once, nodup⟩, fresh, later⟩
    exact ⟨fresh, nodup, fun n mem => ⟨fun same => once (same ▸ mem), later n mem⟩⟩
  · rintro ⟨fresh, nodup, later⟩
    exact ⟨⟨fun again => (later name again).1 rfl, nodup⟩, fresh, fun n mem => (later n mem).2⟩

/-! ## Types -/

/-- Relations are found, all with names, exactly where they are written in one of the two layouts.
-/
theorem relationEntries?_names {written : Option Json} {names : List String} :
    (∃ entries, relationEntries? written = some entries ∧
        entries.map (·.1) = names.map some) ↔
      ∃ layout entries, Writes SaysName written layout entries ∧ entries.map (·.1) = names := by
  constructor
  · rintro ⟨entries, found, same⟩
    unfold relationEntries? at found
    split at found
    all_goals cases found
    · exact ⟨_, _, .absent, (List.map_eq_nil_iff.1 same.symm).symm⟩
    · exact ⟨_, _, .null, (List.map_eq_nil_iff.1 same.symm).symm⟩
    next members =>
      refine ⟨_, _, .object members, ?_⟩
      rw [List.map_map] at same
      have each := map_eq_map_iff_forall₂.1 same
      rw [← List.forall₂_eq_eq_eq, List.forall₂_map_left_iff]
      exact each.imp fun _ _ => Option.some.inj
    next items =>
      rw [List.map_map] at same
      have each : List.Forall₂ SaysName items names :=
        (map_eq_map_iff_forall₂.1 same).imp fun _ _ => saysName_iff.2
      exact ⟨_, _, .array each, map_fst_zip_of_forall₂ each⟩
  · rintro ⟨layout, entries, writes, rfl⟩
    cases writes with
    | absent => exact ⟨[], rfl, rfl⟩
    | null => exact ⟨[], rfl, rfl⟩
    | object members => exact ⟨_, rfl, by simp [Function.comp_def]⟩
    | array each =>
      refine ⟨_, rfl, ?_⟩
      rw [map_fst_zip_of_forall₂ each, List.map_map]
      exact map_eq_map_iff_forall₂.2 (each.imp fun _ _ => saysName_iff.1)

/-- The canonical names behind a name have to differ from it. -/
theorem exists_names_cons_iff {name : String} {written : List (Option String)}
    {seen : List String} :
    (∃ names : List String, some name :: written = names.map some ∧
        (names.map Naming.canonical).Nodup ∧ ∀ n ∈ names.map Naming.canonical, n ∉ seen) ↔
      Naming.canonical name ∉ seen ∧ ∃ names : List String, written = names.map some ∧
        (names.map Naming.canonical).Nodup ∧
          ∀ n ∈ names.map Naming.canonical, n ∉ Naming.canonical name :: seen := by
  constructor
  · rintro ⟨_ | ⟨first, names⟩, same, distinct⟩
    · simp at same
    · obtain ⟨here, later⟩ := List.cons.inj same
      cases here
      obtain ⟨fresh, distinct⟩ := fresh_cons_iff.1 distinct
      exact ⟨fresh, names, later, distinct⟩
  · rintro ⟨fresh, names, later, distinct⟩
    exact ⟨name :: names, by rw [later, List.map_cons], fresh_cons_iff.2 ⟨fresh, distinct⟩⟩

/-- Relations load exactly where each has a name and no two names have the same canonical form.
Their usersets are never refused. -/
theorem loadRelations_succeeds {typeName : String} {metadata : Option Json} {position : Nat}
    {seen : List String} {entries : List (Option String × Json)} :
    (∃ relations, loadRelations typeName metadata position seen entries = .ok relations) ↔
      ∃ names : List String, entries.map (·.1) = names.map some ∧
        (names.map Naming.canonical).Nodup ∧ ∀ n ∈ names.map Naming.canonical, n ∉ seen := by
  induction entries generalizing position seen with
  | nil =>
    refine ⟨fun _ => ⟨[], by simp⟩, fun _ => ⟨[], rfl⟩⟩
  | cons entry rest ih =>
    obtain ⟨name?, userset⟩ := entry
    cases name? with
    | none =>
      constructor
      · rintro ⟨_, failed⟩
        cases failed
      · rintro ⟨names, same, -⟩
        cases names <;> simp at same
    | some name =>
      rw [List.map_cons, exists_names_cons_iff, ← @ih (position + 1)]
      simp only [loadRelations]
      by_cases known : Naming.canonical name ∈ seen
      · rw [if_pos (by exact known)]
        simp [known]
      · rw [if_neg (by exact known)]
        simp only [exists_bind_eq_ok, exists_pure_eq_ok, and_true]
        exact (and_iff_right known).symm

theorem loadType_eq_ok {index : Nat} {entry : Json} {t : TypeDefinition} :
    loadType index entry = .ok t ↔
      typeName? entry = some t.name ∧ ∃ entries,
        relationEntries? (entry.get? "relations") = some entries ∧
        loadRelations t.name ((entry.get? "metadata").bind (·.get? "relations")) 0 [] entries =
          .ok t.relations := by
  obtain ⟨name, relations⟩ := t
  unfold loadType
  cases typeName? entry with
  | none => simp
  | some written =>
    cases relationEntries? (entry.get? "relations") with
    | none => simp
    | some entries =>
      simp only [bind_eq_ok, pure_eq_ok, Option.some.injEq, TypeDefinition.mk.injEq]
      constructor
      · rintro ⟨relations, loaded, rfl, rfl⟩
        exact ⟨rfl, entries, rfl, loaded⟩
      · rintro ⟨rfl, _, rfl, loaded⟩
        exact ⟨relations, loaded, rfl, rfl⟩

/-- A type with a name is loaded from an entry exactly when the entry is one. -/
theorem loadType_succeeds {index : Nat} {entry : Json} {name : String} :
    (∃ t, loadType index entry = .ok t ∧ t.name = name) ↔ IsType entry name := by
  have named : typeName? entry = some name ↔
      firstMember? entry ["type", "name"] = some (.str name) ∧ name ≠ "" := by
    rw [typeName?, nonemptyText?_eq_some, firstMember?_pair]
  simp only [loadType_eq_ok]
  constructor
  · rintro ⟨t, ⟨own, entries, found, loaded⟩, rfl⟩
    obtain ⟨names, same, distinct, -⟩ := loadRelations_succeeds.1 ⟨_, loaded⟩
    obtain ⟨layout, entries, writes, rfl⟩ := relationEntries?_names.1 ⟨entries, found, same⟩
    obtain ⟨here, nonempty⟩ := named.1 own
    exact ⟨here, nonempty, layout, entries, writes, by rwa [List.map_map] at distinct⟩
  · rintro ⟨here, nonempty, layout, entries, writes, distinct⟩
    obtain ⟨entries, found, same⟩ := relationEntries?_names.2 ⟨layout, entries, writes, rfl⟩
    obtain ⟨relations, loaded⟩ := loadRelations_succeeds.2
      ⟨_, same, by rwa [List.map_map], fun _ _ => List.not_mem_nil⟩
    exact ⟨⟨name, relations⟩, ⟨named.2 ⟨here, nonempty⟩, entries, found, loaded⟩, rfl⟩

/-- Types load exactly where each entry is one and the names are distinct, from each other and from
the ones seen before. -/
theorem loadTypes_succeeds {index : Nat} {seen : List String} {entries : List Json} :
    (∃ types, loadTypes index seen entries = .ok types) ↔
      ∃ names, List.Forall₂ IsType entries names ∧ names.Nodup ∧ ∀ n ∈ names, n ∉ seen := by
  induction entries generalizing index seen with
  | nil => exact ⟨fun _ => ⟨[], .nil, List.nodup_nil, by simp⟩, fun _ => ⟨[], rfl⟩⟩
  | cons entry rest ih =>
    have step (t : TypeDefinition) :
        (∃ types, (if t.name ∈ seen then .error (.duplicateType t.name)
          else do
            let others ← loadTypes (index + 1) (t.name :: seen) rest
            return t :: others) = Except.ok (ε := LoadError) types) ↔
          ∃ names, List.Forall₂ IsType rest names ∧ (t.name :: names).Nodup ∧
            ∀ n ∈ t.name :: names, n ∉ seen := by
      simp only [fresh_cons_iff]
      by_cases known : t.name ∈ seen
      · simp [known]
      · simp only [if_neg known, exists_bind_eq_ok, exists_pure_eq_ok, and_true, ih]
        simp only [known, not_false_eq_true, true_and]
    simp only [loadTypes, exists_bind_eq_ok, step]
    constructor
    · rintro ⟨t, loaded, names, later, distinct⟩
      exact ⟨t.name :: names, .cons (loadType_succeeds.1 ⟨t, loaded, rfl⟩) later, distinct⟩
    · rintro ⟨names, each, distinct⟩
      cases each with
      | cons first later =>
        obtain ⟨t, loaded, rfl⟩ := loadType_succeeds.2 first
        exact ⟨t, loaded, _, later, distinct⟩

/-! ## Conditions -/

theorem length_asciiLower (text : String) : (Text.asciiLower text).length = text.length := by
  rw [Text.asciiLower, ← String.length_toList, String.toList_ofList, List.length_map,
    String.length_toList]

/-- The short form of a collection has no room for the lead of a long one. -/
theorem asciiLower_long (rest : String) :
    Text.asciiLower ("TYPE_NAME_" ++ rest) ∉ ["list", "map"] := by
  intro mem
  have long : (Text.asciiLower ("TYPE_NAME_" ++ rest)).length = 10 + rest.length := by
    rw [length_asciiLower, String.length_append]
    rfl
  simp only [List.mem_cons, List.not_mem_nil, or_false] at mem
  rcases mem with list | map
  · rw [list, show "list".length = 4 from rfl] at long
    omega
  · rw [map, show "map".length = 3 from rfl] at long
    omega

/-- A collection is told by its name in any case, with or without the lead. -/
theorem isCollection_iff {typeName : String} :
    IsCollection typeName ↔
      Text.asciiLower ((Text.afterLead? typeName "TYPE_NAME_").getD typeName) ∈
        ["list", "map"] := by
  constructor
  · rintro ⟨lead, own, short, rfl, mem⟩
    simp only [List.mem_cons, List.not_mem_nil, or_false] at own
    rcases own with rfl | rfl
    · cases long : Text.afterLead? ("" ++ short) "TYPE_NAME_" with
      | none => rwa [Option.getD_none, String.empty_append]
      | some rest =>
        rw [Text.afterLead?_eq_some, String.empty_append] at long
        exact absurd (long ▸ mem) (asciiLower_long rest)
    · rwa [Text.afterLead?_append, Option.getD_some]
  · intro mem
    cases long : Text.afterLead? typeName "TYPE_NAME_" with
    | none =>
      rw [long] at mem
      exact ⟨"", by simp, typeName, by rw [String.empty_append], mem⟩
    | some rest =>
      rw [long] at mem
      exact ⟨"TYPE_NAME_", by simp, rest, Text.afterLead?_eq_some.1 long, mem⟩

theorem ofTypeName_eq_unsupported {typeName : String} :
    KindMapping.ofTypeName typeName = .unsupported ↔ IsCollection typeName := by
  rw [isCollection_iff]
  unfold KindMapping.ofTypeName
  split <;> simp_all

/-- A parameter loads exactly where it has a name and a type, and the type is no collection. An
unknown type is no failure. -/
theorem loadParameter_succeeds {condition : String} {entry : Option String × Option Json} :
    (∃ parameter, loadParameter condition entry = .ok parameter) ↔
      entry.1.isSome ∧ ∃ typeName, entry.2 = some (.str typeName) ∧ ¬ IsCollection typeName := by
  obtain ⟨name?, declared⟩ := entry
  cases name? with
  | none => simp [loadParameter]
  | some name =>
    simp only [loadParameter, Option.isSome_some, true_and, ← ofTypeName_eq_unsupported,
      ← Json.bind_str?_eq_some]
    cases declared.bind Json.str? with
    | none => simp
    | some typeName =>
      simp only [Option.some.injEq, exists_eq_left']
      cases KindMapping.ofTypeName typeName <;> simp

theorem loadParameters_succeeds {condition : String}
    {entries : List (Option String × Option Json)} :
    (∃ parameters, loadParameters condition entries = .ok parameters) ↔
      ∀ e ∈ entries, ∃ parameter, loadParameter condition e = .ok parameter := by
  induction entries with
  | nil => simp [loadParameters]
  | cons entry rest ih =>
    rw [List.forall_mem_cons, ← ih]
    simp only [loadParameters, exists_bind_eq_ok, exists_pure_eq_ok, and_true, exists_and_right]

/-- Parameters can be read from what a document writes exactly when each has a name and a type. -/
theorem parameterEntries?_succeeds {written : Option Json} :
    (∃ entries, parameterEntries? written = some entries ∧ ∀ e ∈ entries,
        e.1.isSome ∧ ∃ typeName, e.2 = some (.str typeName) ∧ ¬ IsCollection typeName) ↔
      ∃ layout entries, Writes SaysName written layout entries ∧
        ∀ e ∈ entries, IsParameter layout e.2 := by
  constructor
  · rintro ⟨entries, found, typed⟩
    unfold parameterEntries? at found
    split at found
    all_goals cases found
    · exact ⟨_, _, .absent, by simp⟩
    · exact ⟨_, _, .null, by simp⟩
    next members =>
      refine ⟨_, _, .object members, fun e mem => ?_⟩
      rw [IsParameter, Layout.typeMembers, firstMember?_pair]
      exact (typed _ (List.mem_map_of_mem mem)).2
    next items =>
      rw [List.forall_mem_map] at typed
      have named : ∀ item ∈ items, ∃ name, SaysName item name := fun item mem => by
        obtain ⟨name, own⟩ := Option.isSome_iff_exists.1 (typed item mem).1
        exact ⟨name, saysName_iff.2 own⟩
      obtain ⟨names, each⟩ := exists_forall₂_iff.2 named
      refine ⟨_, _, .array each, (forall_mem_zip_of_forall₂ each).2 fun item mem => ?_⟩
      rw [IsParameter, Layout.typeMembers, firstMember?_pair]
      exact (typed item mem).2
  · rintro ⟨layout, entries, writes, typed⟩
    cases writes with
    | absent => exact ⟨[], rfl, by simp⟩
    | null => exact ⟨[], rfl, by simp⟩
    | object members =>
      refine ⟨_, rfl, List.forall_mem_map.2 fun e mem => ⟨rfl, ?_⟩⟩
      have declared := typed e mem
      rwa [IsParameter, Layout.typeMembers, firstMember?_pair] at declared
    | array each =>
      refine ⟨_, rfl, List.forall_mem_map.2 fun item mem => ?_⟩
      obtain ⟨name, own⟩ := exists_forall₂_iff.1 ⟨_, each⟩ item mem
      have declared := (forall_mem_zip_of_forall₂ each).1 typed item mem
      rw [IsParameter, Layout.typeMembers, firstMember?_pair] at declared
      exact ⟨Option.isSome_iff_exists.2 ⟨name, saysName_iff.1 own⟩, declared⟩

/-- Whether a condition loads does not depend on its name. -/
theorem loadCondition_succeeds {name : String} {entry : Json} :
    (∃ condition, loadCondition name entry = .ok condition) ↔ IsCondition entry := by
  rw [IsCondition, ← parameterEntries?_succeeds]
  unfold loadCondition
  cases parameterEntries? (entry.get? "parameters") with
  | none => simp
  | some entries =>
    simp only [exists_bind_eq_ok, exists_pure_eq_ok, and_true, loadParameters_succeeds,
      loadParameter_succeeds, Option.some.injEq, exists_eq_left']

/-- Conditions load exactly where no name is empty or comes twice, and each entry is a condition. -/
theorem loadConditions_succeeds {seen : List String} {entries : List (String × Json)} :
    (∃ conditions, loadConditions seen entries = .ok conditions) ↔
      ((entries.map (·.1)).Nodup ∧ ∀ n ∈ entries.map (·.1), n ∉ seen) ∧
        ∀ e ∈ entries, e.1 ≠ "" ∧ IsCondition e.2 := by
  induction entries generalizing seen with
  | nil => simp [loadConditions]
  | cons entry rest ih =>
    obtain ⟨name, entry⟩ := entry
    rw [List.map_cons, fresh_cons_iff, List.forall_mem_cons, loadConditions]
    by_cases empty : name = ""
    · simp [empty]
    · rw [if_neg empty]
      by_cases known : name ∈ seen
      · simp [known]
      · rw [if_neg known]
        simp only [exists_bind_eq_ok, exists_pure_eq_ok, and_true, ih, exists_and_right,
          loadCondition_succeeds]
        simp only [ne_eq, empty, known, not_false_eq_true, true_and]
        exact and_left_comm

theorem namedConditions_eq_ok {index : Nat} {items : List Json} {entries : List (String × Json)} :
    namedConditions index items = .ok entries ↔
      ∃ names, List.Forall₂ (fun entry name => ownName? entry = some name) items names ∧
        entries = names.zip items := by
  induction items generalizing index entries with
  | nil => simp [namedConditions, eq_comm]
  | cons item rest ih =>
    have own : (item.get? "name").bind Json.str? = ownName? item := rfl
    simp only [namedConditions, own]
    constructor
    · intro loaded
      split at loaded
      · cases loaded
      next name named =>
        simp only [bind_eq_ok, pure_eq_ok, ih] at loaded
        obtain ⟨_, ⟨names, later, rfl⟩, rfl⟩ := loaded
        exact ⟨name :: names, .cons named later, rfl⟩
    · rintro ⟨names, each, rfl⟩
      cases each with
      | cons named later =>
        simp only [named, bind_eq_ok, pure_eq_ok, ih]
        exact ⟨_, ⟨_, later, rfl⟩, rfl⟩

/-- The items of an array are named as they say. -/
theorem map_conditionName_zip {items : List Json} {names : List String}
    (each : List.Forall₂ (fun entry name => ownName? entry = some name) items names) :
    (names.zip items).map (fun e => (conditionName e, e.2)) = names.zip items := by
  refine (List.map_congr_left fun e mem => ?_).trans (List.map_id _)
  have own : ownName? e.2 = some e.1 := (List.forall₂_iff_zip.1 each.flip).2 mem
  rw [conditionName, own]
  rfl

/-- The conditions of a document are those that it writes, under their names. -/
theorem conditionEntries_eq_ok {written : Option Json} {entries : List (String × Json)} :
    conditionEntries written = .ok entries ↔
      ∃ layout found, Writes (fun entry name => ownName? entry = some name) written layout found ∧
        entries = found.map fun e => (conditionName e, e.2) := by
  constructor
  · intro read
    unfold conditionEntries at read
    split at read
    · cases read
      exact ⟨_, _, .absent, rfl⟩
    · cases read
      exact ⟨_, _, .null, rfl⟩
    next members =>
      cases read
      exact ⟨_, _, .object members, rfl⟩
    next items =>
      obtain ⟨names, each, rfl⟩ := namedConditions_eq_ok.1 read
      exact ⟨_, _, .array each, (map_conditionName_zip each).symm⟩
    · cases read
  · rintro ⟨layout, found, writes, rfl⟩
    cases writes with
    | absent | null | object => rfl
    | array each => exact namedConditions_eq_ok.2 ⟨_, each, map_conditionName_zip each⟩

/-- Both layouts at once: the conditions are found and load exactly where they are written in one of
them. -/
theorem conditions_succeed {written : Option Json} :
    (∃ entries, conditionEntries written = .ok entries ∧
        ∃ conditions, loadConditions [] entries = .ok conditions) ↔
      ∃ layout entries, Writes (fun entry name => ownName? entry = some name) written layout
          entries ∧ (entries.map conditionName).Nodup ∧
        ∀ e ∈ entries, conditionName e ≠ "" ∧ IsCondition e.2 := by
  simp only [conditionEntries_eq_ok, loadConditions_succeeds]
  constructor
  · rintro ⟨_, ⟨layout, found, writes, rfl⟩, ⟨distinct, -⟩, each⟩
    rw [List.map_map] at distinct
    exact ⟨layout, found, writes, distinct, List.forall_mem_map.1 each⟩
  · rintro ⟨layout, found, writes, distinct, each⟩
    refine ⟨_, ⟨layout, found, writes, rfl⟩, ⟨?_, fun _ _ => List.not_mem_nil⟩,
      List.forall_mem_map.2 each⟩
    rwa [List.map_map]

/-! ## Documents -/

/-- A document is loaded exactly when it is a schema: an object with an array of types, each with a
name and with relations of different canonical names, and with conditions of different names, whose
parameters have scalar types. -/
theorem ofJson_succeeds_iff_isSchema (document : Json) :
    (∃ model, Model.ofJson document = .ok model) ↔ IsSchema document := by
  cases document with
  | obj members =>
    have loads : (∃ model, Model.ofJson (.obj members) = .ok model) ↔
        ∃ entries, (Json.obj members).get? "type_definitions" = some (.arr entries) ∧
          (∃ types, loadTypes 0 [] entries = .ok types) ∧
          ∃ entries, conditionEntries ((Json.obj members).get? "conditions") = .ok entries ∧
            ∃ conditions, loadConditions [] entries = .ok conditions := by
      simp only [Model.ofJson, ← bind_arr?_eq_some]
      cases ((Json.obj members).get? "type_definitions").bind Json.arr? with
      | none => simp
      | some entries =>
        simp only [exists_bind_eq_ok, exists_pure_eq_ok, and_true, exists_and_right,
          Option.some.injEq, exists_eq_left']
    rw [loads]
    simp only [conditions_succeed, loadTypes_succeeds]
    constructor
    · rintro ⟨entries, found, ⟨names, each, distinct, -⟩, conditions⟩
      exact ⟨⟨members, rfl⟩, ⟨entries, names, found, each, distinct⟩, conditions⟩
    · rintro ⟨-, ⟨entries, names, found, each, distinct⟩, conditions⟩
      exact ⟨entries, found, ⟨names, each, distinct, fun _ _ => List.not_mem_nil⟩, conditions⟩
  | null | bool | int | real | str | arr =>
    constructor
    · rintro ⟨_, loaded⟩
      cases loaded
    · rintro ⟨⟨_, same⟩, -, -⟩
      cases same

end Rebac.Schema
