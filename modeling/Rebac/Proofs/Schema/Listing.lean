import Mathlib.Logic.Relation
import Rebac.Proofs.Schema.Userset

/-!
# Keyed and listed documents

The relations of a type, the conditions of a schema and the parameters of a condition may stand in
an object under their names, or in an array whose items say their names. The main statement is that
this makes no difference: wherever such an object is rewritten as an array, the document gives the
same schema, or fails for the same reason.
-/

namespace Rebac.Schema

/-! ## Rewriting an object as an array -/

/-- An object without a name, and the object with a name put in somewhere. -/
inductive PutsName (name : String) : Json → Json → Prop where
  | intro {before after : List (String × Json)}
    (unnamed : "name" ∉ Keyed.keys (before ++ after)) :
    PutsName name (.obj (before ++ after)) (.obj (before ++ ("name", .str name) :: after))

/-- A member of an object, and the item of an array that says its key as its name. -/
structure ListsAs (member : String × Json) (item : Json) : Prop where
  nonempty : member.1 ≠ ""
  named : PutsName member.1 member.2 item

/-- An object whose values satisfy `allowed`, and the array that lists its members. -/
inductive Lists (allowed : Json → Prop) : Json → Json → Prop where
  | intro {members : List (String × Json)} {items : List Json}
    (each : List.Forall₂ ListsAs members items) (all : ∀ m ∈ members, allowed m.2) :
    Lists allowed (.obj members) (.arr items)

/-- The value of a member is rewritten. -/
inductive AtMember (name : String) (change : Json → Json → Prop) : Json → Json → Prop where
  | intro {before after : List (String × Json)} {old new : Json}
    (first : name ∉ Keyed.keys before) (changed : change old new) :
    AtMember name change (.obj (before ++ (name, old) :: after))
      (.obj (before ++ (name, new) :: after))

/-- An item of an array is rewritten. -/
inductive AtItem (change : Json → Json → Prop) : Json → Json → Prop where
  | intro {before after : List Json} {old new : Json} (changed : change old new) :
    AtItem change (.arr (before ++ old :: after)) (.arr (before ++ new :: after))

/-- An entry of an array or an object is rewritten. -/
def AtEntry (change : Json → Json → Prop) (old new : Json) : Prop :=
  AtItem change old new ∨ ∃ name, AtMember name change old new

/-- An entry declares its type in one way at most. -/
def DeclaresOnce (entry : Json) : Prop :=
  entry.get? "type" = none ∨ entry.get? "type_name" = none

/-- A document and the same with one object rewritten as an array: the relations of a type, the
conditions, or the parameters of a condition. -/
inductive Relists (document document' : Json) : Prop where
  | relations (site : AtMember "type_definitions"
      (AtItem (AtMember "relations" (Lists fun _ => True))) document document')
  | conditions (site : AtMember "conditions" (Lists fun _ => True) document document')
  | parameters (site : AtMember "conditions"
      (AtEntry (AtMember "parameters" (Lists DeclaresOnce))) document document')

/-! ## What rewriting keeps -/

theorem PutsName.get?_name {name : String} {j j' : Json} (puts : PutsName name j j') :
    j.get? "name" = none ∧ j'.get? "name" = some (.str name) := by
  obtain ⟨unnamed⟩ := puts
  have absent := Keyed.find?_eq_none.mpr unnamed
  refine ⟨absent, ?_⟩
  rw [Keyed.find?_append, Option.or_eq_none_iff] at absent
  rw [Json.get?, Keyed.find?_append, absent.1, Option.none_or, Keyed.find?, if_pos rfl]

theorem PutsName.get?_other {name : String} {j j' : Json} (puts : PutsName name j j')
    {other : String} (ne : other ≠ "name") : j'.get? other = j.get? other := by
  obtain ⟨-⟩ := puts
  simp only [Json.get?, Keyed.find?_append, Keyed.find?, if_neg ne.symm]

theorem AtMember.get?_own {name : String} {change : Json → Json → Prop} {j j' : Json}
    (site : AtMember name change j j') :
    ∃ old new, change old new ∧ j.get? name = some old ∧ j'.get? name = some new := by
  obtain ⟨first, changed⟩ := site
  refine ⟨_, _, changed, ?_, ?_⟩ <;>
    rw [Json.get?, Keyed.find?_append, Keyed.find?_eq_none.mpr first, Option.none_or, Keyed.find?,
      if_pos rfl]

theorem AtMember.get?_other {name : String} {change : Json → Json → Prop} {j j' : Json}
    (site : AtMember name change j j') {other : String} (ne : other ≠ name) :
    j'.get? other = j.get? other := by
  obtain ⟨first, -⟩ := site
  simp only [Json.get?, Keyed.find?_append, Keyed.find?, if_neg ne.symm]

/-- One place of a list is rewritten, and the others stay. -/
theorem forall₂_replace {α : Type} {same : α → α → Prop} (refl : ∀ a, same a a) {old new : α}
    (changed : same old new) (before after : List α) :
    List.Forall₂ same (before ++ old :: after) (before ++ new :: after) := by
  have : Std.Refl same := ⟨refl⟩
  exact List.rel_append (List.forall₂_refl before) (.cons changed (List.forall₂_refl after))

/-! ## Relations -/

/-- Whether a relation is direct depends on three members of its userset alone. None of them is the
name. -/
theorem relationKind_congr {userset userset' : Json}
    (same : ∀ name ∈ ["direct", "this", "union"], userset'.get? name = userset.get? name)
    (metadata : Option Json) : relationKind userset' metadata = relationKind userset metadata := by
  have search : containsThis userset' = containsThis userset := by
    rw [containsThis_eq, containsThis_eq, unitedChildren, unitedChildren, same "this" (by simp),
      same "union" (by simp)]
  rw [relationKind, relationKind, same "direct" (by simp), search]

theorem loadRelations_congr {typeName : String} {metadata : Option Json} {position : Nat}
    {seen : List String} {entries entries' : List (Option String × Json)}
    (same : List.Forall₂ (fun e e' => e'.1 = e.1 ∧
      ∀ metadata, relationKind e'.2 metadata = relationKind e.2 metadata) entries entries') :
    loadRelations typeName metadata position seen entries' =
      loadRelations typeName metadata position seen entries := by
  induction same generalizing position seen with
  | nil => rfl
  | @cons e e' _ _ here _ ih =>
    obtain ⟨name?, userset⟩ := e
    obtain ⟨name?', userset'⟩ := e'
    obtain ⟨named, kinds⟩ := here
    simp only at named kinds
    subst named
    cases name?' with
    | none => rfl
    | some name => simp only [loadRelations, kinds, ih]

/-- Two entries are loaded as the same type. -/
def SameType (entry entry' : Json) : Prop := ∀ index, loadType index entry' = loadType index entry

/-- A type may list its relations or map them. -/
theorem loadType_congr {entry entry' : Json}
    (site : AtMember "relations" (Lists fun _ => True) entry entry') : SameType entry entry' := by
  intro index
  obtain ⟨_, _, ⟨each, -⟩, here, here'⟩ := site.get?_own
  rename_i members items
  have same : List.Forall₂ (fun e e' => e'.1 = e.1 ∧
      ∀ metadata, relationKind e'.2 metadata = relationKind e.2 metadata)
      (members.map fun m => (some m.1, m.2))
      (items.map fun item => (nonemptyText? (item.get? "name"), item)) := by
    rw [List.forall₂_map_left_iff, List.forall₂_map_right_iff]
    refine each.imp fun m item lists => ⟨?_, fun metadata => relationKind_congr ?_ metadata⟩
    · rw [lists.named.get?_name.2]
      exact nonemptyText?_eq_some.mpr ⟨rfl, lists.nonempty⟩
    · intro name known
      exact lists.named.get?_other (by rintro rfl; simp at known)
  have named : typeName? entry' = typeName? entry := by
    rw [typeName?, typeName?, site.get?_other (by decide), site.get?_other (by decide)]
  rw [loadType, loadType, named, site.get?_other (by decide), here, here']
  simp only [relationEntries?, loadRelations_congr same]

/-- Types load alike when their entries do, one by one. This holds for failures too, since an entry
that fails does so at the same index. -/
theorem loadTypes_congr {index : Nat} {seen : List String} {entries entries' : List Json}
    (same : List.Forall₂ SameType entries entries') :
    loadTypes index seen entries' = loadTypes index seen entries := by
  induction same generalizing index seen with
  | nil => rfl
  | cons here _ ih => simp only [loadTypes, here _, ih]

/-- The types that a document writes, loaded, where they are an array. -/
def typesOf (written : Option Json) : Option (Except LoadError (List TypeDefinition)) :=
  (written.bind Json.arr?).map (loadTypes 0 [])

theorem typesOf_atItem {types types' : Json}
    (site : AtItem (AtMember "relations" (Lists fun _ => True)) types types') :
    typesOf (some types') = typesOf (some types) := by
  obtain ⟨changed⟩ := site
  have same := forall₂_replace (fun _ _ => rfl) (loadType_congr changed)
  exact congrArg some (loadTypes_congr (same _ _))

/-! ## Parameters -/

/-- An entry that declares its type once declares it the same in both layouts. -/
theorem declared_comm {entry : Json} (once : DeclaresOnce entry) :
    (entry.get? "type").or (entry.get? "type_name") =
      (entry.get? "type_name").or (entry.get? "type") := by
  rcases once with none | none <;> rw [none, Option.or_none, Option.none_or]

theorem parameterEntries?_of_lists {parameters parameters' : Json}
    (lists : Lists DeclaresOnce parameters parameters') :
    parameterEntries? (some parameters') = parameterEntries? (some parameters) := by
  obtain ⟨each, once⟩ := lists
  refine congrArg some ?_
  induction each with
  | nil => rfl
  | cons lists _ ih =>
    obtain ⟨here, later⟩ := List.forall_mem_cons.mp once
    rw [List.map_cons, List.map_cons, ih later, lists.named.get?_name.2,
      lists.named.get?_other (by decide), lists.named.get?_other (by decide), declared_comm here,
      nonemptyText?_eq_some.mpr ⟨rfl, lists.nonempty⟩]

/-! ## Conditions -/

/-- Two entries are loaded as the same condition. -/
def SameCondition (entry entry' : Json) : Prop :=
  ∀ name, loadCondition name entry' = loadCondition name entry

/-- Two entries say the same name and are loaded as the same condition. -/
structure SameItem (entry entry' : Json) : Prop where
  named : ownName? entry' = ownName? entry
  loads : SameCondition entry entry'

theorem loadCondition_congr {entry entry' : Json}
    (expression : entry'.get? "expression" = entry.get? "expression")
    (parameters : parameterEntries? (entry'.get? "parameters") =
      parameterEntries? (entry.get? "parameters")) : SameCondition entry entry' := by
  intro name
  rw [loadCondition, loadCondition, parameters, expression]

/-- Conditions load alike when their entries have the same names in order, and each is loaded as the
same condition. -/
theorem loadConditions_congr {seen : List String} {entries entries' : List (String × Json)}
    (same : List.Forall₂ (fun e e' => e'.1 = e.1 ∧ SameCondition e.2 e'.2) entries entries') :
    loadConditions seen entries' = loadConditions seen entries := by
  induction same generalizing seen with
  | nil => rfl
  | @cons e e' _ _ here _ ih =>
    obtain ⟨name, entry⟩ := e
    obtain ⟨name', entry'⟩ := e'
    obtain ⟨named, same⟩ := here
    simp only at named same
    subst named
    simp only [loadConditions, same name', ih]

/-- The conditions that a document writes, loaded. -/
def conditionsOf (written : Option Json) : Except LoadError (List Condition) :=
  conditionEntries written >>= loadConditions []

/-- Items with the same names make way for each other, in front of whatever takes them. -/
theorem namedConditions_congr {α : Type} {index : Nat} {items items' : List Json}
    (same : List.Forall₂ SameItem items items')
    {next next' : List (String × Json) → Except LoadError α}
    (takes : ∀ entries entries', List.Forall₂ (fun e e' => e'.1 = e.1 ∧ SameCondition e.2 e'.2)
      entries entries' → next' entries' = next entries) :
    namedConditions index items' >>= next' = namedConditions index items >>= next := by
  induction same generalizing index next next' with
  | nil => exact takes [] [] .nil
  | @cons e e' rest rest' here _ ih =>
    have own (entry : Json) : (entry.get? "name").bind Json.str? = ownName? entry := rfl
    simp only [namedConditions, own, here.named]
    cases ownName? e with
    | none => rfl
    | some name =>
      simp only [bind_assoc, pure_bind]
      exact ih fun entries entries' later => takes _ _ (.cons ⟨rfl, here.loads⟩ later)

/-- Items that say keys as their names are conditions under these names. -/
theorem namedConditions_of_lists {index : Nat} {members : List (String × Json)}
    {items : List Json} (each : List.Forall₂ ListsAs members items) :
    ∃ entries, namedConditions index items = .ok entries ∧
      List.Forall₂ (fun e e' => e'.1 = e.1 ∧ SameCondition e.2 e'.2) members entries := by
  induction each generalizing index with
  | nil => exact ⟨[], rfl, .nil⟩
  | @cons m item _ _ lists _ ih =>
    obtain ⟨entries, named, same⟩ := @ih (index + 1)
    refine ⟨(m.1, item) :: entries, ?_, .cons ⟨rfl, ?_⟩ same⟩
    · rw [namedConditions, lists.named.get?_name.2]
      simp only [Option.bind_some, Json.str?, named]
      rfl
    · exact loadCondition_congr (lists.named.get?_other (by decide))
        (congrArg _ (lists.named.get?_other (by decide)))

/-- Members without names of their own are conditions under their keys. -/
theorem conditionEntries_of_lists {members : List (String × Json)} {items : List Json}
    (each : List.Forall₂ ListsAs members items) :
    conditionEntries (some (.obj members)) = .ok members := by
  refine congrArg Except.ok ?_
  induction each with
  | nil => rfl
  | @cons m _ _ _ lists _ ih =>
    have unnamed : ((m.2.get? "name").bind Json.str?).getD m.1 = m.1 := by
      rw [lists.named.get?_name.1]
      rfl
    rw [List.map_cons, ih]
    exact congrArg (fun key => (key, m.2) :: _) unnamed

/-- The conditions are loaded alike from a list and from a map, also where one of them is refused.
-/
theorem conditionsOf_lists {conditions conditions' : Json}
    (lists : Lists (fun _ => True) conditions conditions') :
    conditionsOf (some conditions') = conditionsOf (some conditions) := by
  obtain ⟨each, -⟩ := lists
  obtain ⟨entries, named, same⟩ := namedConditions_of_lists each
  rw [conditionsOf, conditionsOf, conditionEntries_of_lists each, conditionEntries, named]
  exact loadConditions_congr same

/-- Parameters may be rewritten in one of the conditions. -/
theorem conditionsOf_atEntry {conditions conditions' : Json}
    (site : AtEntry (AtMember "parameters" (Lists DeclaresOnce)) conditions conditions') :
    conditionsOf (some conditions') = conditionsOf (some conditions) := by
  have changes {old new : Json} (site : AtMember "parameters" (Lists DeclaresOnce) old new) :
      SameItem old new := by
    obtain ⟨_, _, lists, here, here'⟩ := site.get?_own
    refine ⟨by rw [ownName?, ownName?, site.get?_other (by decide)],
      loadCondition_congr (site.get?_other (by decide)) ?_⟩
    rw [here, here', parameterEntries?_of_lists lists]
  rcases site with listed | ⟨key, keyed⟩
  case inl =>
    obtain ⟨changed⟩ := listed
    have same := forall₂_replace (fun _ => ⟨rfl, fun _ => rfl⟩) (changes changed)
    exact namedConditions_congr (same _ _) fun _ _ same => loadConditions_congr same
  case inr =>
    obtain ⟨-, changed⟩ := keyed
    obtain ⟨named, same⟩ := changes changed
    refine loadConditions_congr ?_
    rw [List.forall₂_map_left_iff, List.forall₂_map_right_iff]
    exact forall₂_replace (fun _ => ⟨rfl, fun _ => rfl⟩)
      ⟨congrArg (fun own : Option String => own.getD key) named, same⟩ _ _

/-! ## Documents -/

/-- A schema is made of the version, the types and the conditions of a document. -/
theorem ofJson_eq (members : List (String × Json)) :
    let document := Json.obj members
    Model.ofJson document =
      (typesOf (document.get? "type_definitions")).elim (.error .noTypeDefinitions)
        fun loaded => do
          let types ← loaded
          let conditions ← conditionsOf (document.get? "conditions")
          return ⟨((document.get? "schema_version").bind Json.str?).getD defaultVersion, types,
            conditions⟩ := by
  intro document
  simp only [document, Model.ofJson, conditionsOf, typesOf, bind_assoc]
  cases ((Json.obj members).get? "type_definitions").bind Json.arr? <;> rfl

/-- A change of one member of the document, which is not the version, is not seen by the loader if
the types and the conditions come out the same. -/
theorem ofJson_atMember {name : String} {change : Json → Json → Prop} {document document' : Json}
    (site : AtMember name change document document') (other : "schema_version" ≠ name)
    (types : typesOf (document'.get? "type_definitions") =
      typesOf (document.get? "type_definitions"))
    (conditions : conditionsOf (document'.get? "conditions") =
      conditionsOf (document.get? "conditions")) :
    Model.ofJson document' = Model.ofJson document := by
  have version := site.get?_other other
  obtain ⟨-, -⟩ := site
  rw [ofJson_eq, ofJson_eq, version, types, conditions]

/-- One object rewritten as an array makes no difference. -/
theorem ofJson_relists {document document' : Json} (relists : Relists document document') :
    Model.ofJson document' = Model.ofJson document := by
  rcases relists with site | site | site
  case relations =>
    obtain ⟨types, types', changed, here, here'⟩ := site.get?_own
    refine ofJson_atMember site (by decide) ?_ (by rw [site.get?_other (by decide)])
    rw [here, here', typesOf_atItem changed]
  case conditions =>
    obtain ⟨conditions, conditions', lists, here, here'⟩ := site.get?_own
    refine ofJson_atMember site (by decide) (by rw [site.get?_other (by decide)]) ?_
    rw [here, here', conditionsOf_lists lists]
  case parameters =>
    obtain ⟨conditions, conditions', changed, here, here'⟩ := site.get?_own
    refine ofJson_atMember site (by decide) (by rw [site.get?_other (by decide)]) ?_
    rw [here, here', conditionsOf_atEntry changed]

/-- Wherever objects of a document that hold relations, conditions or parameters are rewritten as
arrays, the document gives the same schema, or fails for the same reason. -/
theorem ofJson_of_relists {document document' : Json}
    (rewritten : Relation.ReflTransGen Relists document document') :
    Model.ofJson document' = Model.ofJson document := by
  induction rewritten with
  | refl => rfl
  | tail _ step ih => exact (ofJson_relists step).trans ih

/-- A document with a type of forms. -/
def formsDocument (relations conditions : Json) : Json :=
  .obj [("type_definitions", .arr [.obj [("type", .str "form"), ("relations", relations)]]),
    ("conditions", conditions)]

/-- A condition with parameters. -/
def trialMembers (parameters : Json) : List (String × Json) :=
  [("expression", .str "now < start"), ("parameters", parameters)]

/-- The relations, the parameters and the conditions are rewritten as lists one after the other, and
the name is put first or last. The model is the one of the maps. -/
theorem ofJson_of_relists_forms :
    let relations := Json.obj [("editor", .obj [("this", .obj [])])]
    let relations' := Json.arr [.obj [("name", .str "editor"), ("this", .obj [])]]
    let parameters := Json.obj [("start_init", .obj [("type_name", .str "TYPE_NAME_TIMESTAMP")])]
    let parameters' := Json.arr
      [.obj [("type_name", .str "TYPE_NAME_TIMESTAMP"), ("name", .str "start_init")]]
    let conditions := Json.obj [("trial", .obj (trialMembers parameters))]
    let conditions' := Json.arr [.obj (("name", .str "trial") :: trialMembers parameters')]
    Relation.ReflTransGen Relists (formsDocument relations conditions)
        (formsDocument relations' conditions') ∧
      Model.ofJson (formsDocument relations' conditions') =
        Model.ofJson (formsDocument relations conditions) ∧
      Model.ofJson (formsDocument relations conditions) =
        .ok ⟨"1.1", [⟨"form", [⟨"editor", .direct⟩]⟩],
          [⟨"trial", some "now < start", [⟨"start_init", .timestamp⟩]⟩]⟩ := by
  intro relations relations' parameters parameters' conditions conditions'
  have listedRelations : Lists (fun _ => True) relations relations' :=
    .intro (.cons ⟨by decide, @PutsName.intro _ [] [("this", .obj [])] (by decide)⟩ .nil)
      fun _ _ => trivial
  have listedParameters : Lists DeclaresOnce parameters parameters' :=
    .intro (.cons ⟨by decide, @PutsName.intro _ [("type_name", _)] [] (by decide)⟩ .nil)
      (List.forall_mem_singleton.mpr (.inl rfl))
  have listedConditions : Lists (fun _ => True)
      (.obj [("trial", .obj (trialMembers parameters'))]) conditions' :=
    .intro (.cons ⟨by decide, @PutsName.intro _ [] (trialMembers parameters') (by decide)⟩ .nil)
      fun _ _ => trivial
  have first : Relists (formsDocument relations conditions) (formsDocument relations' conditions) :=
    .relations (@AtMember.intro _ _ [] [_] _ _ (by decide)
      (@AtItem.intro _ [] [] _ _ (@AtMember.intro _ _ [("type", _)] [] _ _ (by decide)
        listedRelations)))
  have second : Relists (formsDocument relations' conditions) (formsDocument relations'
      (.obj [("trial", .obj (trialMembers parameters'))])) :=
    .parameters (@AtMember.intro _ _ [("type_definitions", _)] [] _ _ (by decide)
      (.inr ⟨"trial", @AtMember.intro _ _ [] [] _ _ (by decide)
        (@AtMember.intro _ _ [("expression", _)] [] _ _ (by decide) listedParameters)⟩))
  have third : Relists
      (formsDocument relations' (.obj [("trial", .obj (trialMembers parameters'))]))
      (formsDocument relations' conditions') :=
    .conditions (@AtMember.intro _ _ [("type_definitions", _)] [] _ _ (by decide) listedConditions)
  have rewritten := ((Relation.ReflTransGen.single first).tail second).tail third
  exact ⟨rewritten, ofJson_of_relists rewritten, by decide +kernel⟩

end Rebac.Schema
