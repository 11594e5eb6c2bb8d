import Rebac.Proofs.Json.Record
import Rebac.Tuple

/-!
# Tuples there and back

A tuple is written as a record and read back as it was, its condition and the order of the values
bound to it included. A record may spell a tuple in other ways as well: with a null for a condition
that is not there, without or with an empty object for values that are not there, with its members
in another order and beside others, or as an array. Of these the one that is written is normal.
-/

namespace Rebac

open Condition (Attached Context)
open Json (Fields RoundTrips)

/-! ## Contexts -/

/-- The normal form of a context: an object that sets no name twice. -/
def Condition.Context.IsNormal (j : Json) : Prop :=
  ∃ members, j = .obj members ∧ (Keyed.keys members).Nodup

/-- A context is read as its entries, in order. -/
theorem Condition.Context.roundTrips :
    RoundTrips Context.toJson Context.ofJson? Context.IsNormal where
  read_write context := by
    have same : Keyed.ofList context.entries = context.entries :=
      Keyed.ofList_of_nodup context.nodup
    simp only [Context.toJson, Context.ofJson?, Context.ofList, Context.extend, Context.empty,
      Option.some.injEq]
    cases context
    congr
  normal context := ⟨context.entries, rfl, context.nodup⟩
  exists_of_normal := by
    rintro _ ⟨members, rfl, nodup⟩
    exact ⟨⟨members, nodup⟩, rfl⟩

theorem Condition.Context.ofJson?_eq_some {j : Json} {context : Context} :
    Context.ofJson? j = some context ↔
      ∃ members, j = .obj members ∧ Context.ofList members = context := by
  cases j <;> simp [Context.ofJson?]

/-! ## Attached conditions -/

namespace Condition.Attached

/-- The normal form of an attached condition: its name, and its values when there are some. -/
inductive IsNormal : Json → Prop where
  | bare (name : String) : IsNormal (.obj [("name", .str name)])
  | bound (name : String) {members : List (String × Json)} (some : members ≠ [])
      (nodup : (Keyed.keys members).Nodup) :
      IsNormal (.obj [("name", .str name), ("context", .obj members)])

/-- What fields say of an attached condition. Values that are not given are none. -/
structure Spells (f : Fields) (c : Attached) : Prop where
  name : Keyed.find? f.values "name" = some (.str c.name)
  context :
    (∃ members, Keyed.find? f.values "context" = some (.obj members) ∧
        Context.ofList members = c.context) ∨
      (Keyed.find? f.values "context" = none ∧ c.context = .empty)

/-- A record that spells an attached condition. -/
def IsSpelledBy (c : Attached) (j : Json) : Prop :=
  ∃ f, j.fields? ["name", "context"] = some f ∧ Spells f c

theorem ofRecord?_eq_some {j : Json} {c : Attached} :
    ofRecord? j = some c ↔ c.IsSpelledBy j := by
  obtain ⟨name, context⟩ := c
  simp only [ofRecord?, Option.bind_eq_bind, Option.pure_def, Option.bind_eq_some_iff,
    Fields.required?_str, Fields.defaulted?_eq_some]
  constructor
  · rintro ⟨f, fields, _, named, _, bound, same⟩
    cases same
    refine ⟨f, fields, named, bound.imp_left ?_⟩
    rintro ⟨j, given, read⟩
    obtain ⟨members, rfl, same⟩ := Context.ofJson?_eq_some.mp read
    exact ⟨members, given, same⟩
  · rintro ⟨f, fields, named, bound⟩
    refine ⟨f, fields, name, named, context, bound.imp_left ?_, rfl⟩
    rintro ⟨members, given, same⟩
    exact ⟨_, given, Context.ofJson?_eq_some.mpr ⟨members, rfl, same⟩⟩

theorem roundTrips : RoundTrips toJson ofRecord? IsNormal where
  read_write c := by
    refine ofRecord?_eq_some.mpr ⟨_, rfl, rfl, ?_⟩
    cases empty : c.context.isEmpty with
    | true =>
      have none : c.context = .empty := by
        obtain ⟨_, ⟨entries, _⟩⟩ := c
        cases List.isEmpty_iff.mp empty
        rfl
      exact .inr ⟨by simp [Keyed.find?], none⟩
    | false =>
      have read := Context.roundTrips.read_write c.context
      exact .inl ⟨c.context.entries, by simp [Keyed.find?, Context.toJson],
        Option.some.inj read⟩
  normal c := by
    unfold toJson
    split
    · exact .bare c.name
    · next bound =>
      exact .bound c.name (fun none => bound (List.isEmpty_iff.mpr none)) c.context.nodup
  exists_of_normal := by
    rintro _ (name | @⟨name, members, some, nodup⟩)
    · exact ⟨⟨name, .empty⟩, rfl⟩
    · refine ⟨⟨name, ⟨members, nodup⟩⟩, ?_⟩
      simp [toJson, Context.isEmpty, Context.toJson, some]

end Condition.Attached

/-! ## Tuples -/

namespace Tuple

/-- The normal form of a tuple: user, relation and object, and a condition when there is one. -/
inductive IsNormal : Json → Prop where
  | plain (user relation object : String) :
      IsNormal (.obj
        [("user", .str user), ("relation", .str relation), ("object", .str object)])
  | conditional (user relation object : String) {condition : Json}
      (normal : Attached.IsNormal condition) :
      IsNormal (.obj
        [("user", .str user), ("relation", .str relation), ("object", .str object),
          ("condition", condition)])

/-- What fields say of a tuple. A condition that is null or not given is none. -/
structure Spells (f : Fields) (t : Tuple) : Prop where
  user : Keyed.find? f.values "user" = some (.str t.user)
  relation : Keyed.find? f.values "relation" = some (.str t.relation)
  object : Keyed.find? f.values "object" = some (.str t.object)
  condition :
    (∃ j c, Keyed.find? f.values "condition" = some j ∧ j ≠ .null ∧ c.IsSpelledBy j ∧
        t.condition = some c) ∨
      ((Keyed.find? f.values "condition" = none ∨
          Keyed.find? f.values "condition" = some .null) ∧ t.condition = none)

/-- A record that spells a tuple. -/
def IsSpelledBy (t : Tuple) (j : Json) : Prop :=
  ∃ f, j.fields? ["user", "relation", "object", "condition"] = some f ∧ Spells f t

theorem ofRecord?_eq_some {j : Json} {t : Tuple} : ofRecord? j = some t ↔ t.IsSpelledBy j := by
  obtain ⟨user, relation, object, condition⟩ := t
  simp only [ofRecord?, Option.bind_eq_bind, Option.pure_def, Option.bind_eq_some_iff,
    Fields.required?_str, Fields.nullable?_eq_some, Attached.ofRecord?_eq_some]
  constructor
  · rintro ⟨f, fields, _, who, _, how, _, what, _, when, same⟩
    cases same
    exact ⟨f, fields, who, how, what, when⟩
  · rintro ⟨f, fields, who, how, what, when⟩
    exact ⟨f, fields, user, who, relation, how, object, what, condition, when, rfl⟩

theorem roundTrips : RoundTrips toJson ofRecord? IsNormal where
  read_write t := by
    obtain ⟨user, relation, object, condition⟩ := t
    refine ofRecord?_eq_some.mpr ⟨_, rfl, rfl, rfl, rfl, ?_⟩
    cases condition with
    | none => exact .inr ⟨.inl rfl, rfl⟩
    | some c =>
      have spelt := Attached.ofRecord?_eq_some.mp (Attached.roundTrips.read_write c)
      exact .inl ⟨c.toJson, c, rfl, nofun, spelt, rfl⟩
  normal t := by
    obtain ⟨user, relation, object, condition⟩ := t
    cases condition with
    | none => exact .plain user relation object
    | some c => exact .conditional user relation object (Attached.roundTrips.normal c)
  exists_of_normal := by
    rintro _ (⟨user, relation, object⟩ | ⟨user, relation, object, normal⟩)
    · exact ⟨⟨user, relation, object, none⟩, rfl⟩
    · obtain ⟨c, rfl⟩ := Attached.roundTrips.exists_of_normal normal
      exact ⟨⟨user, relation, object, some c⟩, rfl⟩

/-- Tuples and attached conditions are read back as they were written, with their values in order.
They are read from the records that spell them and from no other value; each of these is written
again in the normal form, which is read alike, and it is in this form already just where that
changes nothing. -/
theorem records_round_trip :
    (∀ t : Tuple, ofRecord? t.toJson = some t) ∧
      (∀ (j : Json) (t : Tuple), ofRecord? j = some t ↔ t.IsSpelledBy j) ∧
      (∀ (j : Json) (t : Tuple), ofRecord? j = some t →
        IsNormal t.toJson ∧ ofRecord? t.toJson = some t ∧ (IsNormal j ↔ j = t.toJson)) ∧
      (∀ c : Attached, Attached.ofRecord? c.toJson = some c) ∧
      (∀ (j : Json) (c : Attached), Attached.ofRecord? j = some c ↔ c.IsSpelledBy j) ∧
      (∀ (j : Json) (c : Attached), Attached.ofRecord? j = some c →
        Attached.IsNormal c.toJson ∧ Attached.ofRecord? c.toJson = some c ∧
          (Attached.IsNormal j ↔ j = c.toJson)) := by
  refine ⟨roundTrips.read_write, fun _ _ => ofRecord?_eq_some, fun j t read => ?_,
    Attached.roundTrips.read_write, fun _ _ => Attached.ofRecord?_eq_some, fun j c read => ?_⟩
  · exact ⟨roundTrips.normal t, roundTrips.read_write t, roundTrips.isNormal_iff read⟩
  · exact ⟨Attached.roundTrips.normal c, Attached.roundTrips.read_write c,
      Attached.roundTrips.isNormal_iff read⟩

/-- A grant under a condition, spelled out of order, with a member that is no field and with values
that are none. -/
def looseGrant : Json :=
  .obj [("object", .str "form:1"), ("note", .null),
    ("condition", .obj [("context", .obj []), ("name", .str "always")]),
    ("relation", .str "editor"), ("user", .str "user:alice")]

/-- This record has its members in another order, one that is no field, and a condition whose
context is empty. It is read, and the record written for what was read is the normal one. -/
theorem records_round_trip_loose :
    ofRecord? looseGrant = some ⟨"user:alice", "editor", "form:1", some ⟨"always", .empty⟩⟩ ∧
      IsNormal (toJson ⟨"user:alice", "editor", "form:1", some ⟨"always", .empty⟩⟩) ∧
      ¬ IsNormal looseGrant := by
  have read : ofRecord? looseGrant =
      some ⟨"user:alice", "editor", "form:1", some ⟨"always", .empty⟩⟩ := rfl
  obtain ⟨normal, -, once⟩ := records_round_trip.2.2.1 looseGrant _ read
  refine ⟨read, normal, fun loose => ?_⟩
  have first : some "object" = some "user" :=
    congrArg (fun j => (j.obj?.getD []).head?.map (·.1)) (once.mp loose)
  exact absurd first (by decide)

end Tuple

end Rebac
