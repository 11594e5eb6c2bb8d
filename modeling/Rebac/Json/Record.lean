import Rebac.Json.Shape

/-! # Records in JSON

A record is written as an object with a member for each field, or as an array with its fields in
order. Members that are no field have no bearing. -/

namespace Rebac.Json

/-- The fields that a record gives, with the way it gives them. -/
structure Fields where
  /-- Whether the fields are given by name, and not by place. -/
  byName : Bool
  values : List (String × Json)

/-- The record in `j` with fields of these names. An array may end early, but holds no more items
than there are fields. -/
def fields? (names : List String) : Json → Option Fields
  | .obj members => some ⟨true, members⟩
  | .arr items => if items.length ≤ names.length then some ⟨false, names.zip items⟩ else none
  | _ => none

namespace Fields

variable {α : Type}

/-- A field that must be there. -/
def required? (f : Fields) (name : String) (read : Json → Option α) : Option α :=
  (Keyed.find? f.values name).bind read

/-- A field that has `fallback` when it is not there. -/
def defaulted? (f : Fields) (name : String) (fallback : α) (read : Json → Option α) : Option α :=
  match Keyed.find? f.values name with
  | some j => read j
  | none => some fallback

/-- A field that may be null. It may also be missing, but only by name. -/
def optional? (f : Fields) (name : String) (read : Json → Option α) : Option (Option α) :=
  match Keyed.find? f.values name with
  | some .null => some none
  | some j => (read j).map some
  | none => if f.byName then some none else none

/-- A field that may be null or missing. -/
def nullable? (f : Fields) (name : String) (read : Json → Option α) : Option (Option α) :=
  match Keyed.find? f.values name with
  | some .null | none => some none
  | some j => (read j).map some

end Fields

/-- A list of values that are all readable. -/
def list? {α : Type} (read : Json → Option α) : Json → Option (List α)
  | .arr items => items.mapM read
  | _ => none

/-- A table of values that are all readable, keyed by name. -/
def table? {α : Type} (read : Json → Option α) : Json → Option (List (String × α))
  | .obj members => (members.mapM fun m => (read m.2).map (m.1, ·)).map Keyed.ofList
  | _ => none

/-- A choice among names, written as the name alone or as an object that maps it to null. -/
def choice? {α : Type} (choices : List (String × α)) : Json → Option α
  | .str name => Keyed.find? choices name
  | .obj [(name, .null)] => Keyed.find? choices name
  | _ => none

end Rebac.Json
