import Rebac.Json.Skip

/-! # Shapes

The shape of a typed value says which parts of a text are read. Records leave out the members that
are no field, and those are skipped; no field may be written twice. -/

namespace Rebac.Json

/-- What a typed value looks like in JSON. -/
inductive Shape where
  /-- Any value. -/
  | free
  /-- Any value, which is skipped. -/
  | skipped
  /-- A record with these fields, in this order. -/
  | record (fields : List (String × Shape))
  /-- A list. -/
  | list (item : Shape)
  /-- A table with keys of any name; a key may be written more than once. -/
  | table (entry : Shape)

namespace Shape

/-- The shape of an item after `place` others. A record has its fields in order. -/
def item? : Shape → (place : Nat) → Option Shape
  | .record fields, place => fields[place]?.map (·.2)
  | .list item, _ => some item
  | _, _ => none

/-- The shape of a member. -/
def member? : Shape → (name : String) → Option Shape
  | .record fields, name => some ((Keyed.find? fields name).getD .skipped)
  | .table entry, _ => some entry
  | _, _ => none

/-- The members read, last first, with one more in front. A field of a record comes once, and a
member that is no field is left out. -/
def add? (shape : Shape) (name : String) (value : Json) (acc : List (String × Json)) :
    Option (List (String × Json)) :=
  match shape with
  | .record fields =>
    if (Keyed.find? fields name).isNone then some acc
    else if (Keyed.find? acc name).isSome then none
    else some ((name, value) :: acc)
  | _ => some ((name, value) :: acc)

mutual

/-- A value of the shape at the front of the text, which opens at most `depth` more levels. Where
the shape asks for more values, a single one may stand too. -/
def readValue : (fuel depth : Nat) → Shape → List Char → Option (Json × List Char)
  | 0, _, _, _ => none
  | _, depth, .free, cs =>
    (Json.readValue (3 * cs.length + 3) depth cs).toOption.map fun (j, rest) => (j.settled, rest)
  | _, _, .skipped, cs => (skipValue cs).map (.null, ·)
  | fuel + 1, depth, shape, cs =>
    match skipSpace cs with
    | '[' :: rest => if depth = 0 then none else readItems fuel (depth - 1) shape [] rest
    | '\x7b' :: rest =>
      if depth = 0 then none
      else match skipSpace rest with
        | '\x7d' :: rest => some (.obj [], rest)
        | rest => readMembers fuel (depth - 1) shape [] rest
    | rest => (Json.readValue 1 0 rest).toOption

/-- Items up to the end of their array. `acc` holds the items read, last first. -/
def readItems : (fuel depth : Nat) → Shape → List Json → List Char → Option (Json × List Char)
  | 0, _, _, _, _ => none
  | fuel + 1, depth, shape, acc, cs =>
    match acc, skipSpace cs with
    | [], ']' :: rest => some (.arr [], rest)
    | acc, cs => do
      let (item, rest) ← readValue fuel depth (← shape.item? acc.length) cs
      match skipSpace rest with
      | ']' :: rest => some (.arr (item :: acc).reverse, rest)
      | ',' :: rest => readItems fuel depth shape (item :: acc) rest
      | _ => none

/-- Members up to the end of their object. `acc` holds the members read, last first. -/
def readMembers :
    (fuel depth : Nat) → Shape → List (String × Json) → List Char → Option (Json × List Char)
  | 0, _, _, _, _ => none
  | fuel + 1, depth, shape, acc, cs =>
    match skipSpace cs with
    | '"' :: rest => do
      let (name, rest) ← (readString [] rest).toOption
      match skipSpace rest with
      | ':' :: rest =>
        let (value, rest) ← readValue fuel depth (← shape.member? name) rest
        let acc ← shape.add? name value acc
        match skipSpace rest with
        | '\x7d' :: rest => some (.obj acc.reverse, rest)
        | ',' :: rest => readMembers fuel depth shape acc rest
        | _ => none
      | _ => none
    | _ => none

end

/-- The typed value a text holds, as far as its shape is concerned. -/
def read? (shape : Shape) (text : String) : Option Json := do
  let (value, rest) ← shape.readValue (2 * text.length + 2) maxDepth text.toList
  if skipSpace rest = [] then some value else none

end Shape

end Rebac.Json
