import Rebac.Json.Record
import Rebac.Proofs.Except
import Rebac.Proofs.Json.Reading

/-!
# Typed reading and strict reading

A typed value is read straight from its text. Here it is related to the document that the strict
reader finds: the typed value is the part of the document that its shape asks for.
-/

namespace Rebac.Json

namespace Shape

mutual

/-- The part of a document that a shape asks for. -/
def restrict? : Json → Shape → Option Json
  | j, .free => some j.settled
  | _, .skipped => some .null
  | .arr items, shape => (restrictItems? items shape 0).map .arr
  | .obj members, shape => (restrictMembers? members shape []).map fun acc => .obj acc.reverse
  | j, _ => some j

/-- The parts of the items after `place` others. -/
def restrictItems? : List Json → Shape → (place : Nat) → Option (List Json)
  | [], _, _ => some []
  | j :: rest, shape, place =>
    ((shape.item? place).bind (restrict? j)).bind fun item =>
      (restrictItems? rest shape (place + 1)).map (item :: ·)

/-- The parts of the members, last first, in front of `acc`. -/
def restrictMembers? : List (String × Json) → Shape → (acc : List (String × Json)) →
    Option (List (String × Json))
  | [], _, acc => some acc
  | (name, j) :: rest, shape, acc =>
    ((shape.member? name).bind (restrict? j)).bind fun value =>
      (shape.add? name value acc).bind (restrictMembers? rest shape)

end

/-- Whether a shape asks for some parts of a value only. -/
def isSelective : Shape → Bool
  | .free | .skipped => false
  | _ => true

end Shape

open Shape

theorem restrict?_free (j : Json) : restrict? j .free = some j.settled := by
  cases j <;> rfl

/-- A scalar is left as it is, whatever selective shape it is read with. A wrong one is found when
the value is used. -/
theorem restrict?_scalar {j : Json} (h : j.isScalar = true) {shape : Shape}
    (selective : shape.isSelective = true) : restrict? j shape = some j := by
  cases shape with
  | free | skipped => cases selective
  | record | list | table => cases j <;> first | rfl | cases h

/-- A selective shape goes through the items of a list, and asks for each by its place. -/
theorem restrict?_arr {shape : Shape} (selective : shape.isSelective = true) (js : List Json) :
    restrict? (.arr js) shape = (restrictItems? js shape 0).map .arr := by
  cases shape <;> first | rfl | cases selective

/-- A selective shape goes through the members of an object in their order. -/
theorem restrict?_obj {shape : Shape} (selective : shape.isSelective = true)
    (ms : List (String × Json)) :
    restrict? (.obj ms) shape = (restrictMembers? ms shape []).map fun acc => .obj acc.reverse := by
  cases shape <;> first | rfl | cases selective

/-- The typed reader, given enough fuel, finds what a shape asks for of a part. -/
def Part.TypedBy (depth : Nat) (cs rest : List Char) : Part → Prop
  | .value j => ∀ fuel shape, 2 * cs.length ≤ fuel + 2 * rest.length →
    Shape.readValue fuel depth shape cs = (restrict? j shape).map (·, rest)
  | .items js => ∀ fuel shape acc, 2 * cs.length ≤ fuel + 2 * rest.length →
    Shape.readItems fuel depth shape acc cs =
      (restrictItems? js shape acc.length).map fun items => (.arr (acc.reverse ++ items), rest)
  | .members ms => ∀ fuel shape acc, 2 * cs.length ≤ fuel + 2 * rest.length →
    Shape.readMembers fuel depth shape acc cs =
      (restrictMembers? ms shape acc).map fun acc => (.obj acc.reverse, rest)

/-- Only shapes that select need a look at how a value is written: a free value is read by the
strict reader, and a skipped one ends where a free one does. -/
theorem Reads.typedValue {depth : Nat} {j : Json} {cs rest : List Char}
    (h : Reads depth (.value j) cs rest)
    (selective : ∀ fuel shape, shape.isSelective = true →
      2 * cs.length ≤ fuel + 1 + 2 * rest.length →
      Shape.readValue (fuel + 1) depth shape cs = (restrict? j shape).map (·, rest)) :
    Part.TypedBy depth cs rest (.value j) := by
  intro fuel shape enough
  have := h.shorter
  obtain ⟨fuel, rfl⟩ : ∃ n, fuel = n + 1 := ⟨fuel - 1, by omega⟩
  cases shape with
  | free =>
    have strict := h.read (Nat.le_trans (Nat.le_add_right _ 3) (Nat.le_add_right _ _))
    rw [Shape.readValue, strict]
    · cases j <;> rfl
    · omega
  | skipped =>
    rw [Shape.readValue, h.skipValue]
    · cases j <;> rfl
    · omega
  | record | list | table => exact selective fuel _ rfl enough

/-- Every shape that selects looks for a bracket first. -/
theorem readValue_selective {shape : Shape} (selective : shape.isSelective = true)
    (fuel depth : Nat) (cs : List Char) :
    Shape.readValue (fuel + 1) depth shape cs =
      match skipSpace cs with
      | '[' :: rest => if depth = 0 then none else Shape.readItems fuel (depth - 1) shape [] rest
      | '\x7b' :: rest =>
        if depth = 0 then none
        else match skipSpace rest with
          | '\x7d' :: rest => some (.obj [], rest)
          | rest => Shape.readMembers fuel (depth - 1) shape [] rest
      | rest => (Json.readValue 1 0 rest).toOption := by
  cases shape with
  | free | skipped => cases selective
  | record | list | table => rfl

/-- A value that is no collection is read alike under every shape that selects. -/
theorem readValue_scalar {j : Json} {cs rest : List Char} (found : ScalarAt j cs rest)
    {shape : Shape} (selective : shape.isSelective = true) (fuel depth : Nat) :
    Shape.readValue (fuel + 1) depth shape cs = some (j, rest) := by
  obtain ⟨c, after, front, list, object, -⟩ := found.skipped
  have alone := found.read 0 0
  rw [← readValue_skipSpace, front] at alone
  rw [readValue_selective selective, front]
  split
  · next h => exact absurd (List.cons.inj h).1 list
  · next h => exact absurd (List.cons.inj h).1 object
  · rw [alone]
    rfl

theorem readValue_list {cs after : List Char} (front : skipSpace cs = '[' :: after)
    {shape : Shape} (selective : shape.isSelective = true) (fuel depth : Nat) :
    Shape.readValue (fuel + 1) (depth + 1) shape cs =
      Shape.readItems fuel depth shape [] after := by
  rw [readValue_selective selective, front]
  rfl

theorem readValue_object {cs after : List Char} (front : skipSpace cs = '\x7b' :: after)
    {shape : Shape} (selective : shape.isSelective = true) (fuel depth : Nat) :
    Shape.readValue (fuel + 1) (depth + 1) shape cs =
      match skipSpace after with
      | '\x7d' :: rest => some (.obj [], rest)
      | rest => Shape.readMembers fuel depth shape [] rest := by
  rw [readValue_selective selective, front]
  rfl

/-- Spaces in front of a value have no bearing. -/
theorem Reads.readValue_skipSpace {depth : Nat} {j : Json} {cs rest : List Char}
    (h : Reads depth (.value j) cs rest) (fuel : Nat) (shape : Shape) :
    Shape.readValue fuel depth shape (skipSpace cs) = Shape.readValue fuel depth shape cs := by
  have spaced := reads_skipSpace.2 h
  cases fuel with
  | zero => simp only [Shape.readValue]
  | succ fuel =>
    cases shape with
    | free =>
      have strict := h.read (Nat.le_trans (Nat.le_add_right _ 3) (Nat.le_add_right _ _))
      have strict' := spaced.read (Nat.le_trans (Nat.le_add_right _ 3) (Nat.le_add_right _ _))
      simp only [Part.ReadBy] at strict strict'
      simp [Shape.readValue, strict, strict']
    | skipped => simp [Shape.readValue, h.skipValue, spaced.skipValue]
    | record | list | table => simp only [Shape.readValue, skipSpace_skipSpace]

theorem readMembers_skipSpace (fuel depth : Nat) (shape : Shape) (acc : List (String × Json))
    (cs : List Char) :
    Shape.readMembers (fuel + 1) depth shape acc (skipSpace cs) =
      Shape.readMembers (fuel + 1) depth shape acc cs := by
  simp only [Shape.readMembers, skipSpace_skipSpace]

theorem readItems_close {cs rest : List Char} (close : skipSpace cs = ']' :: rest)
    (fuel depth : Nat) (shape : Shape) :
    Shape.readItems (fuel + 1) depth shape [] cs = some (.arr [], rest) := by
  rw [Shape.readItems.eq_2 _ _ _ _ _ close]

/-- An item, and what comes behind it. -/
theorem Reads.readItem {depth : Nat} {j : Json} {cs mid : List Char}
    (value : Reads depth (.value j) cs mid) (typed : Part.TypedBy depth cs mid (.value j))
    {fuel : Nat} (enough : 2 * cs.length ≤ fuel + 2 * mid.length) (shape : Shape)
    (acc : List Json) :
    Shape.readItems (fuel + 1) depth shape acc cs =
      ((shape.item? acc.length).bind (restrict? j)).bind fun item =>
        match skipSpace mid with
        | ']' :: rest => some (.arr (item :: acc).reverse, rest)
        | ',' :: rest => Shape.readItems fuel depth shape (item :: acc) rest
        | _ => none := by
  obtain ⟨c, after, front, notClose⟩ := value.front
  rw [Shape.readItems]
  · cases shape.item? acc.length with
    | none => rfl
    | some item =>
      have first := typed fuel item enough
      rw [← value.readValue_skipSpace] at first
      simp only [Option.bind_eq_bind, Option.bind_some, first]
      cases restrict? j item with
      | none => rfl
      | some read => rfl
  · intro rest _ close
    rw [front] at close
    exact notClose (List.cons.inj close).1

/-- A member, and what comes behind it. -/
theorem NameAt.readMemberTyped {depth : Nat} {name : String} {j : Json} {cs colon mid : List Char}
    (named : NameAt name cs colon) (typed : Part.TypedBy depth colon mid (.value j))
    {fuel : Nat} (enough : 2 * colon.length ≤ fuel + 2 * mid.length) (shape : Shape)
    (acc : List (String × Json)) :
    Shape.readMembers (fuel + 1) depth shape acc cs =
      ((shape.member? name).bind (restrict? j)).bind fun value =>
        (shape.add? name value acc).bind fun acc =>
          match skipSpace mid with
          | '\x7d' :: rest => some (.obj acc.reverse, rest)
          | ',' :: rest => Shape.readMembers fuel depth shape acc rest
          | _ => none := by
  obtain ⟨quoted, after, front, string, found⟩ := named
  have read : (readString [] quoted).toOption = some (name, after) := by
    rw [string]
    rfl
  simp only [Shape.readMembers, front, read, Option.bind_eq_bind, Option.bind_some, found]
  cases shape.member? name with
  | none => rfl
  | some member =>
    have first := typed fuel member enough
    cases kept : restrict? j member <;> simp only [first, kept, Option.bind_some] <;> rfl

/-- The typed reader finds what a shape asks for of any part that the strict reader finds. -/
theorem Reads.typed {depth : Nat} {part : Part} {cs rest : List Char}
    (h : Reads depth part cs rest) : part.TypedBy depth cs rest := by
  induction h with
  | scalar found =>
    refine (Reads.scalar found).typedValue fun fuel shape selective _ => ?_
    rw [readValue_scalar found selective, restrict?_scalar found.scalar selective]
    rfl
  | noItems front close =>
    refine (Reads.noItems front close).typedValue fun fuel shape selective enough => ?_
    have := length_lt_of_skipSpace front
    have := length_lt_of_skipSpace close
    obtain ⟨fuel, rfl⟩ : ∃ n, fuel = n + 1 := ⟨fuel - 1, by omega⟩
    rw [readValue_list front selective, restrict?_arr selective, readItems_close close]
    rfl
  | list front items ih =>
    refine (Reads.list front items).typedValue fun fuel shape selective enough => ?_
    have := length_lt_of_skipSpace front
    rw [readValue_list front selective, restrict?_arr selective, ih fuel shape [] (by omega),
      Option.map_map]
    rfl
  | noMembers front close =>
    refine (Reads.noMembers front close).typedValue fun fuel shape selective _ => ?_
    rw [readValue_object front selective, restrict?_obj selective, close]
    rfl
  | object front members ih =>
    refine (Reads.object front members).typedValue fun fuel shape selective enough => ?_
    have := length_lt_of_skipSpace front
    have := members.shorter
    obtain ⟨fuel, rfl⟩ : ∃ n, fuel = n + 1 := ⟨fuel - 1, by omega⟩
    obtain ⟨after, first⟩ := members.front_members
    have inside := ih (fuel + 1) shape [] (by omega)
    rw [← readMembers_skipSpace, first] at inside
    rw [readValue_object front selective, restrict?_obj selective, first, Option.map_map]
    exact inside
  | lastItem value close ih =>
    intro fuel shape acc enough
    have := value.shorter
    have := length_lt_of_skipSpace close
    obtain ⟨fuel, rfl⟩ : ∃ n, fuel = n + 1 := ⟨fuel - 1, by omega⟩
    rw [value.readItem ih (by omega), restrictItems?, Option.map_bind]
    congr 1
    funext item
    simp [restrictItems?, close]
  | item value comma later first ih =>
    intro fuel shape acc enough
    have := value.shorter
    have := later.shorter
    have := length_lt_of_skipSpace comma
    obtain ⟨fuel, rfl⟩ : ∃ n, fuel = n + 1 := ⟨fuel - 1, by omega⟩
    rw [value.readItem first (by omega), restrictItems?, Option.map_bind]
    congr 1
    funext item
    have behind := ih fuel shape (item :: acc) (by omega)
    simp [comma, behind, Function.comp_def]
  | lastMember named value close ih =>
    intro fuel shape acc enough
    have := named.shorter
    have := value.shorter
    have := length_lt_of_skipSpace close
    obtain ⟨fuel, rfl⟩ : ∃ n, fuel = n + 1 := ⟨fuel - 1, by omega⟩
    rw [named.readMemberTyped ih (by omega), restrictMembers?, Option.map_bind]
    congr 1
    funext value
    simp only [close, Function.comp_apply, Option.map_eq_bind, Option.bind_assoc]
    rfl
  | member named value comma later first ih =>
    intro fuel shape acc enough
    have := named.shorter
    have := value.shorter
    have := later.shorter
    have := length_lt_of_skipSpace comma
    obtain ⟨fuel, rfl⟩ : ∃ n, fuel = n + 1 := ⟨fuel - 1, by omega⟩
    rw [named.readMemberTyped first (by omega), restrictMembers?, Option.map_bind]
    congr 1
    funext value
    have behind acc := ih fuel shape acc (by omega)
    simp only [comma, behind]
    exact Option.map_bind.symm

/-- A text that is one document holds a reading of it, and space behind it. -/
theorem readDocument_ok {cs : List Char} {doc : Json} (h : readDocument cs = .ok doc) :
    ∃ rest, Reads maxDepth (.value doc) cs rest ∧ skipSpace rest = [] := by
  cases read : readValue (3 * cs.length + 3) maxDepth cs with
  | error halt =>
    simp only [readDocument, read] at h
    cases h
  | ok found =>
    obtain ⟨value, rest⟩ := found
    simp only [readDocument, read, bind, Except.bind] at h
    split at h
    · next done =>
      cases h
      exact ⟨rest, (readerSound _).value read, done⟩
    · cases h

/-- A typed value is the part of its document that its shape asks for. -/
theorem read?_of_readAsWritten? {shape : Shape} {text : String} {doc : Json}
    (h : readAsWritten? text = some doc) : shape.read? text = restrict? doc shape := by
  obtain ⟨rest, reads, done⟩ : ∃ rest, Reads maxDepth (.value doc) text.toList rest ∧
      skipSpace rest = [] := by
    apply readDocument_ok
    unfold readAsWritten? at h
    cases read : readDocument text.toList with
    | error halt =>
      rw [read] at h
      cases h
    | ok found =>
      rw [read] at h
      cases h
      rfl
  have typed := reads.typed (2 * text.length + 2) shape (by simp only [String.length_toList]; omega)
  simp only [Shape.read?, typed, Option.bind_eq_bind, Option.bind_map, Function.comp_def, done,
    if_true]
  cases restrict? doc shape <;> rfl

/-! ## Every typed value is part of a document -/

/-- With so much fuel, what a typed reader finds is what its shape asks for of some document. -/
structure TypedSound (fuel : Nat) : Prop where
  value {depth : Nat} {shape : Shape} {cs rest : List Char} {j : Json}
      (read : Shape.readValue fuel depth shape cs = some (j, rest)) :
    ∃ doc, restrict? doc shape = some j
  items {depth : Nat} {shape : Shape} {acc : List Json} {cs rest : List Char} {j : Json}
      (read : Shape.readItems fuel depth shape acc cs = some (j, rest)) :
    ∃ js vs, restrictItems? js shape acc.length = some vs ∧ j = .arr (acc.reverse ++ vs)
  members {depth : Nat} {shape : Shape} {acc : List (String × Json)} {cs rest : List Char}
      {j : Json} (read : Shape.readMembers fuel depth shape acc cs = some (j, rest)) :
    ∃ ms acc', restrictMembers? ms shape acc = some acc' ∧ j = .obj acc'.reverse

theorem restrict?_of_readValue_free {fuel depth : Nat} {cs rest : List Char} {j : Json}
    (h : Shape.readValue (fuel + 1) depth .free cs = some (j, rest)) :
    ∃ doc, restrict? doc .free = some j := by
  rw [Shape.readValue] at h
  · obtain ⟨⟨doc, left⟩, -, settled⟩ := Option.map_eq_some_iff.1 h
    cases settled
    exact ⟨doc, restrict?_free doc⟩
  · omega

theorem restrict?_of_readValue_skipped {fuel depth : Nat} {cs rest : List Char} {j : Json}
    (h : Shape.readValue (fuel + 1) depth .skipped cs = some (j, rest)) :
    ∃ doc, restrict? doc .skipped = some j := by
  rw [Shape.readValue] at h
  · obtain ⟨left, -, skipped⟩ := Option.map_eq_some_iff.1 h
    cases skipped
    exact ⟨.null, rfl⟩
  · omega

section Sound

variable {fuel : Nat} (ih : TypedSound fuel)
include ih

theorem TypedSound.readValue_selective {depth : Nat} {shape : Shape} {cs rest : List Char}
    {j : Json} (selective : shape.isSelective = true)
    (h : Shape.readValue (fuel + 1) depth shape cs = some (j, rest)) :
    ∃ doc, restrict? doc shape = some j := by
  rw [Json.readValue_selective selective] at h
  split at h
  · split at h
    · cases h
    · obtain ⟨js, vs, kept, rfl⟩ := ih.items h
      exact ⟨.arr js, by rw [restrict?_arr selective]; exact congrArg (Option.map _) kept⟩
  · split at h
    · cases h
    · split at h
      · cases h
        exact ⟨.obj [], restrict?_obj selective []⟩
      · obtain ⟨ms, acc, kept, rfl⟩ := ih.members h
        exact ⟨.obj ms, by rw [restrict?_obj selective]; exact congrArg (Option.map _) kept⟩
  · have scalar := (scalarAt_of_readValue (toOption_eq_some h)).scalar
    exact ⟨j, restrict?_scalar scalar selective⟩

theorem TypedSound.readValue_succ {depth : Nat} {shape : Shape} {cs rest : List Char} {j : Json}
    (h : Shape.readValue (fuel + 1) depth shape cs = some (j, rest)) :
    ∃ doc, restrict? doc shape = some j := by
  cases selective : shape.isSelective with
  | false =>
    cases shape with
    | free => exact restrict?_of_readValue_free h
    | skipped => exact restrict?_of_readValue_skipped h
    | record | list | table => cases selective
  | true => exact ih.readValue_selective selective h

theorem TypedSound.readItems_succ {depth : Nat} {shape : Shape} {acc : List Json}
    {cs rest : List Char} {j : Json}
    (h : Shape.readItems (fuel + 1) depth shape acc cs = some (j, rest)) :
    ∃ js vs, restrictItems? js shape acc.length = some vs ∧ j = .arr (acc.reverse ++ vs) := by
  by_cases closed : acc = [] ∧ ∃ after, skipSpace cs = ']' :: after
  · obtain ⟨rfl, after, close⟩ := closed
    rw [readItems_close close] at h
    cases h
    exact ⟨[], [], rfl, rfl⟩
  · have opened (after : List Char) (empty : acc = []) (close : skipSpace cs = ']' :: after) :
        False := closed ⟨empty, after, close⟩
    rw [Shape.readItems.eq_3 _ _ _ _ _ opened] at h
    simp only [Option.bind_eq_bind, Option.bind_eq_some_iff] at h
    obtain ⟨item, asked, ⟨v, mid⟩, first, behind⟩ := h
    obtain ⟨doc, kept⟩ := ih.value first
    split at behind
    · cases behind
      exact ⟨[doc], [v], by simp [restrictItems?, asked, kept], by simp⟩
    · obtain ⟨js, vs, later, rfl⟩ := ih.items behind
      refine ⟨doc :: js, v :: vs, ?_, by simp⟩
      simp only [List.length_cons] at later
      simp [restrictItems?, asked, kept, later]
    · cases behind

theorem TypedSound.readMembers_succ {depth : Nat} {shape : Shape} {acc : List (String × Json)}
    {cs rest : List Char} {j : Json}
    (h : Shape.readMembers (fuel + 1) depth shape acc cs = some (j, rest)) :
    ∃ ms acc', restrictMembers? ms shape acc = some acc' ∧ j = .obj acc'.reverse := by
  rw [Shape.readMembers] at h
  split at h
  · simp only [Option.bind_eq_bind, Option.bind_eq_some_iff] at h
    obtain ⟨⟨name, after⟩, -, h⟩ := h
    split at h
    · simp only [Option.bind_eq_some_iff] at h
      obtain ⟨member, asked, ⟨v, mid⟩, first, more, added, behind⟩ := h
      obtain ⟨doc, kept⟩ := ih.value first
      split at behind
      · cases behind
        exact ⟨[(name, doc)], more, by simp [restrictMembers?, asked, kept, added], rfl⟩
      · obtain ⟨ms, acc', later, rfl⟩ := ih.members behind
        refine ⟨(name, doc) :: ms, acc', ?_, rfl⟩
        simp [restrictMembers?, asked, kept, added, later]
      · cases behind
    · cases h
  · cases h

end Sound

/-- By induction on the fuel, each typed reader from the ones with less. -/
theorem typedSound (fuel : Nat) : TypedSound fuel := by
  induction fuel with
  | zero => constructor <;> simp [Shape.readValue, Shape.readItems, Shape.readMembers]
  | succ fuel ih => exact ⟨ih.readValue_succ, ih.readItems_succ, ih.readMembers_succ⟩

/-- What a text is read as by a shape is what the shape takes of some document. That need not be one
a strict reader finds in the text, as parts that are skipped are not checked in full. -/
theorem document_of_read? {shape : Shape} {text : String} {view : Json}
    (h : shape.read? text = some view) : ∃ doc, restrict? doc shape = some view := by
  simp only [Shape.read?, Option.bind_eq_bind, Option.bind_eq_some_iff] at h
  obtain ⟨⟨value, rest⟩, read, done⟩ := h
  split at done
  · cases done
    exact (typedSound _).value read
  · cases done

end Rebac.Json
