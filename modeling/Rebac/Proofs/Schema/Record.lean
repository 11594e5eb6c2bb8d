import Rebac.Bindings.Source
import Rebac.Proofs.Json.Record
import Rebac.Schema.Record

/-!
# Schemas there and back

A schema is written as a record with every field written out, and read back as it was: its types,
relations, conditions and parameters in order, each kind and each expression that is there or not.
A record may also leave out conditions or an expression, have a null for the latter and have members
that are no field; it is then read as the schema it spells, which is written out in full again.
-/

namespace Rebac.Schema

open Json (Fields RoundTrips IsListOf)

/-! ## Kinds -/

theorem relationKind_named (n : String) (kind : RelationKind) :
    Keyed.find? relationKindNames n = some kind ↔ n = kind.name := by
  cases kind <;> grind [relationKindNames, RelationKind.name, Keyed.find?]

theorem parameterKind_named (n : String) (kind : ParameterKind) :
    Keyed.find? parameterKindNames n = some kind ↔ n = kind.name := by
  cases kind <;> grind [parameterKindNames, ParameterKind.name, Keyed.find?]

/-- What fields say of something that has a name and a kind. The kind is the text of its name, or
an object that maps this to null. -/
structure SpellsKind (name kind : String) (f : Fields) : Prop where
  name : Keyed.find? f.values "name" = some (.str name)
  kind : Keyed.find? f.values "kind" = some (.str kind) ∨
    Keyed.find? f.values "kind" = some (.obj [(kind, .null)])

/-- A record that spells something that has a name and a kind. -/
def IsKindSpelledBy (name kind : String) (j : Json) : Prop :=
  ∃ f, j.fields? ["name", "kind"] = some f ∧ SpellsKind name kind f

/-- Something that has a name and a kind, written out. -/
def kindRecord (name kind : String) : Json := .obj [("name", .str name), ("kind", .str kind)]

/-- A record of a name and a kind, as it is written, spells them. -/
theorem isKindSpelledBy_kindRecord (name kind : String) :
    IsKindSpelledBy name kind (kindRecord name kind) :=
  ⟨_, rfl, rfl, .inl rfl⟩

/-! ## Relations and types -/

namespace Relation

/-- A record is read as a relation exactly if it spells that relation. -/
theorem ofRecord?_eq_some {j : Json} {r : Relation} :
    ofRecord? j = some r ↔ IsKindSpelledBy r.name r.kind.name j := by
  obtain ⟨name, kind⟩ := r
  simp only [ofRecord?, Option.bind_eq_bind, Option.pure_def, Option.bind_eq_some_iff,
    Fields.required?_str, Fields.required?_choice relationKind_named]
  constructor
  · rintro ⟨f, fields, _, named, _, chosen, same⟩
    cases same
    exact ⟨f, fields, named, chosen⟩
  · rintro ⟨f, fields, named, chosen⟩
    exact ⟨f, fields, name, named, kind, chosen, rfl⟩

/-- A relation written out. -/
def IsWritten (j : Json) : Prop :=
  ∃ (name : String) (kind : RelationKind), j = kindRecord name kind.name

/-- Relations are read back as they were, and of all their spellings the written one is normal. -/
theorem roundTrips : RoundTrips toJson ofRecord? IsWritten where
  read_write _ := ofRecord?_eq_some.mpr (isKindSpelledBy_kindRecord _ _)
  normal r := ⟨r.name, r.kind, rfl⟩
  exists_of_normal := fun ⟨name, kind, written⟩ => ⟨⟨name, kind⟩, written.symm⟩

end Relation

namespace TypeDefinition

/-- What fields say of a type. -/
structure Spells (f : Fields) (t : TypeDefinition) : Prop where
  name : Keyed.find? f.values "name" = some (.str t.name)
  relations : ∃ js, Keyed.find? f.values "relations" = some (.arr js) ∧
    List.Forall₂ (fun j (r : Relation) => IsKindSpelledBy r.name r.kind.name j) js t.relations

/-- A record that spells a type. -/
def IsSpelledBy (t : TypeDefinition) (j : Json) : Prop :=
  ∃ f, j.fields? ["name", "relations"] = some f ∧ Spells f t

/-- A record is read as a type exactly if it spells its name and its relations. -/
theorem ofRecord?_eq_some {j : Json} {t : TypeDefinition} :
    ofRecord? j = some t ↔ t.IsSpelledBy j := by
  obtain ⟨name, relations⟩ := t
  simp only [ofRecord?, Option.bind_eq_bind, Option.pure_def, Option.bind_eq_some_iff,
    Fields.required?_str, Fields.required?_list, Relation.ofRecord?_eq_some]
  constructor
  · rintro ⟨f, fields, _, named, _, listed, same⟩
    cases same
    exact ⟨f, fields, named, listed⟩
  · rintro ⟨f, fields, named, listed⟩
    exact ⟨f, fields, name, named, relations, listed, rfl⟩

/-- A type written out. -/
def IsWritten (j : Json) : Prop :=
  ∃ (name : String) (relations : Json),
    j = .obj [("name", .str name), ("relations", relations)] ∧
      IsListOf Relation.IsWritten relations

/-- Types are read back as they were, with their relations in order. -/
theorem roundTrips : RoundTrips toJson ofRecord? IsWritten where
  read_write t := by
    have spelt := Json.list?_eq_some.mp (Relation.roundTrips.list.read_write t.relations)
    simp only [Relation.ofRecord?_eq_some] at spelt
    obtain ⟨js, written, spelt⟩ := spelt
    exact ofRecord?_eq_some.mpr ⟨_, rfl, rfl, js, congrArg some written, spelt⟩
  normal t := ⟨t.name, _, rfl, Relation.roundTrips.list.normal t.relations⟩
  exists_of_normal := by
    rintro _ ⟨name, _, rfl, written⟩
    obtain ⟨relations, rfl⟩ := Relation.roundTrips.list.exists_of_normal written
    exact ⟨⟨name, relations⟩, rfl⟩

end TypeDefinition

/-! ## Parameters and conditions -/

namespace Parameter

theorem ofRecord?_eq_some {j : Json} {p : Parameter} :
    ofRecord? j = some p ↔ IsKindSpelledBy p.name p.kind.name j := by
  obtain ⟨name, kind⟩ := p
  simp only [ofRecord?, Option.bind_eq_bind, Option.pure_def, Option.bind_eq_some_iff,
    Fields.required?_str, Fields.required?_choice parameterKind_named]
  constructor
  · rintro ⟨f, fields, _, named, _, chosen, same⟩
    cases same
    exact ⟨f, fields, named, chosen⟩
  · rintro ⟨f, fields, named, chosen⟩
    exact ⟨f, fields, name, named, kind, chosen, rfl⟩

/-- A parameter written out. -/
def IsWritten (j : Json) : Prop :=
  ∃ (name : String) (kind : ParameterKind), j = kindRecord name kind.name

theorem roundTrips : RoundTrips toJson ofRecord? IsWritten where
  read_write _ := ofRecord?_eq_some.mpr (isKindSpelledBy_kindRecord _ _)
  normal p := ⟨p.name, p.kind, rfl⟩
  exists_of_normal := fun ⟨name, kind, written⟩ => ⟨⟨name, kind⟩, written.symm⟩

end Parameter

namespace Condition

/-- What fields say of a condition. An expression that is null or not given is none. -/
structure Spells (f : Fields) (c : Condition) : Prop where
  name : Keyed.find? f.values "name" = some (.str c.name)
  expression :
    (∃ text, Keyed.find? f.values "expression" = some (.str text) ∧ c.expression = some text) ∨
      ((Keyed.find? f.values "expression" = none ∨
          Keyed.find? f.values "expression" = some .null) ∧ c.expression = none)
  parameters : ∃ js, Keyed.find? f.values "parameters" = some (.arr js) ∧
    List.Forall₂ (fun j (p : Parameter) => IsKindSpelledBy p.name p.kind.name j) js c.parameters

/-- A record that spells a condition. -/
def IsSpelledBy (c : Condition) (j : Json) : Prop :=
  ∃ f, j.fields? ["name", "expression", "parameters"] = some f ∧ Spells f c

/-- A record is read as a condition exactly if it spells it. Its expression may be left out or null.
-/
theorem ofRecord?_eq_some {j : Json} {c : Condition} :
    ofRecord? j = some c ↔ c.IsSpelledBy j := by
  obtain ⟨name, expression, parameters⟩ := c
  simp only [ofRecord?, Option.bind_eq_bind, Option.pure_def, Option.bind_eq_some_iff,
    Fields.required?_str, Fields.nullable?_str, Fields.required?_list,
    Parameter.ofRecord?_eq_some]
  constructor
  · rintro ⟨f, fields, _, named, _, said, _, listed, same⟩
    cases same
    exact ⟨f, fields, named, said, listed⟩
  · rintro ⟨f, fields, named, said, listed⟩
    exact ⟨f, fields, name, named, expression, said, parameters, listed, rfl⟩

/-- A condition written out. Where there is no expression, a null says so. -/
def IsWritten (j : Json) : Prop :=
  ∃ (name : String) (expression : Option String) (parameters : Json),
    j = .obj [("name", .str name), ("expression", Json.strOrNull expression),
      ("parameters", parameters)] ∧ IsListOf Parameter.IsWritten parameters

theorem roundTrips : RoundTrips toJson ofRecord? IsWritten where
  read_write c := by
    have spelt := Json.list?_eq_some.mp (Parameter.roundTrips.list.read_write c.parameters)
    simp only [Parameter.ofRecord?_eq_some] at spelt
    obtain ⟨js, written, spelt⟩ := spelt
    refine ofRecord?_eq_some.mpr ⟨_, rfl, rfl, ?_, js, congrArg some written, spelt⟩
    cases c.expression with
    | none => exact .inr ⟨.inr rfl, rfl⟩
    | some text => exact .inl ⟨text, rfl, rfl⟩
  normal c := ⟨c.name, c.expression, _, rfl, Parameter.roundTrips.list.normal c.parameters⟩
  exists_of_normal := by
    rintro _ ⟨name, expression, _, rfl, written⟩
    obtain ⟨parameters, rfl⟩ := Parameter.roundTrips.list.exists_of_normal written
    exact ⟨⟨name, expression, parameters⟩, rfl⟩

end Condition

/-! ## Schemas -/

namespace Model

/-- What fields say of a schema. Conditions that are not given are none. -/
structure Spells (f : Fields) (m : Model) : Prop where
  version : Keyed.find? f.values "schema_version" = some (.str m.version)
  types : ∃ js, Keyed.find? f.values "type_definitions" = some (.arr js) ∧
    List.Forall₂ (fun j (t : TypeDefinition) => t.IsSpelledBy j) js m.types
  conditions :
    (∃ js, Keyed.find? f.values "conditions" = some (.arr js) ∧
        List.Forall₂ (fun j (c : Condition) => c.IsSpelledBy j) js m.conditions) ∨
      (Keyed.find? f.values "conditions" = none ∧ m.conditions = [])

/-- A record that spells a schema. -/
def IsSpelledBy (m : Model) (j : Json) : Prop :=
  ∃ f, j.fields? ["schema_version", "type_definitions", "conditions"] = some f ∧ Spells f m

/-- A record is read as a schema exactly if it spells it. Its conditions may be left out, and are
none then. -/
theorem ofRecord?_eq_some {j : Json} {m : Model} : ofRecord? j = some m ↔ m.IsSpelledBy j := by
  obtain ⟨version, types, conditions⟩ := m
  simp only [ofRecord?, Option.bind_eq_bind, Option.pure_def, Option.bind_eq_some_iff,
    Fields.required?_str, Fields.required?_list, Fields.defaulted?_list,
    TypeDefinition.ofRecord?_eq_some, Condition.ofRecord?_eq_some]
  constructor
  · rintro ⟨f, fields, _, versioned, _, typed, _, conditioned, same⟩
    cases same
    exact ⟨f, fields, versioned, typed, conditioned⟩
  · rintro ⟨f, fields, versioned, typed, conditioned⟩
    exact ⟨f, fields, version, versioned, types, typed, conditions, conditioned, rfl⟩

/-- A schema written out. -/
def IsWritten (j : Json) : Prop :=
  ∃ (version : String) (types conditions : Json),
    j = .obj [("schema_version", .str version), ("type_definitions", types),
      ("conditions", conditions)] ∧
      IsListOf TypeDefinition.IsWritten types ∧ IsListOf Condition.IsWritten conditions

/-- Schemas are read back as they were, and what is read is written in full again. -/
theorem roundTrips : RoundTrips toJson ofRecord? IsWritten where
  read_write m := by
    have types := Json.list?_eq_some.mp (TypeDefinition.roundTrips.list.read_write m.types)
    have conditions := Json.list?_eq_some.mp (Condition.roundTrips.list.read_write m.conditions)
    simp only [TypeDefinition.ofRecord?_eq_some] at types
    simp only [Condition.ofRecord?_eq_some] at conditions
    obtain ⟨ts, written, types⟩ := types
    obtain ⟨cs, written', conditions⟩ := conditions
    exact ofRecord?_eq_some.mpr ⟨_, rfl, rfl, ⟨ts, congrArg some written, types⟩,
      .inl ⟨cs, congrArg some written', conditions⟩⟩
  normal m := ⟨m.version, _, _, rfl, TypeDefinition.roundTrips.list.normal m.types,
    Condition.roundTrips.list.normal m.conditions⟩
  exists_of_normal := by
    rintro _ ⟨version, _, _, rfl, written, written'⟩
    obtain ⟨types, rfl⟩ := TypeDefinition.roundTrips.list.exists_of_normal written
    obtain ⟨conditions, rfl⟩ := Condition.roundTrips.list.exists_of_normal written'
    exact ⟨⟨version, types, conditions⟩, rfl⟩

/-- A schema is read back as it was written, so that the same bindings come of it under every
policy. It is read from the records that spell it and from no other value; each of these is written
again in full, which is read alike, and it is in full already just where that changes nothing. -/
theorem record_round_trip :
    (∀ m : Model, ofRecord? m.toJson = some m) ∧
      (∀ (m : Model) (policy : Accessor.Policy),
        (ofRecord? m.toJson).map (Bindings.generate · policy) =
          some (Bindings.generate m policy)) ∧
      (∀ (j : Json) (m : Model), ofRecord? j = some m ↔ m.IsSpelledBy j) ∧
      (∀ (j : Json) (m : Model), ofRecord? j = some m →
        IsWritten m.toJson ∧ ofRecord? m.toJson = some m ∧ (IsWritten j ↔ j = m.toJson)) := by
  refine ⟨roundTrips.read_write, fun m policy => ?_, fun _ _ => ofRecord?_eq_some,
    fun j m read => ?_⟩
  · rw [roundTrips.read_write m]
    rfl
  · exact ⟨roundTrips.normal m, roundTrips.read_write m, roundTrips.isNormal_iff read⟩

/-- A schema spelled out of order, with a kind as an object, with members that are no field, and
with one expression that is null and one that is left out. -/
def looseSchema : Json :=
  .obj [
    ("conditions", .arr [
      .obj [("name", .str "always"), ("expression", .null), ("parameters", .arr [])],
      .obj [("parameters", .arr [.obj [("kind", .str "Int"), ("name", .str "limit")]]),
        ("name", .str "within")]]),
    ("type_definitions", .arr [
      .obj [("name", .str "form"), ("note", .bool true),
        ("relations", .arr [.obj [("kind", .obj [("Direct", .null)]), ("name", .str "editor")]])]]),
    ("schema_version", .str "1.1")]

/-- The schema that it spells. -/
def looseModel : Model :=
  ⟨"1.1", [⟨"form", [⟨"editor", .direct⟩]⟩],
    [⟨"always", none, []⟩, ⟨"within", none, [⟨"limit", .int⟩]⟩]⟩

/-- This record has its members in another order, one expression that is null and one that is left
out, and a member that is no field. It is read, but it is not the record that is written for what
was read. -/
theorem record_round_trip_loose :
    ofRecord? looseSchema = some looseModel ∧ IsWritten looseModel.toJson ∧
      ¬ IsWritten looseSchema := by
  have read : ofRecord? looseSchema = some looseModel := by decide +kernel
  obtain ⟨normal, -, once⟩ := record_round_trip.2.2.2 looseSchema looseModel read
  refine ⟨read, normal, fun loose => ?_⟩
  have first : some "conditions" = some "schema_version" :=
    congrArg (fun j => (j.obj?.getD []).head?.map (·.1)) (once.mp loose)
  exact absurd first (by decide)

end Model

end Rebac.Schema
