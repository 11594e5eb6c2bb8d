import Rebac.Proofs.Schema.Lookup

/-!
# Usersets

A userset is a tree of operations on sets of users. A document may leave it open whether a relation
is direct: then it is direct where its metadata lists user types, or where `this` stands in its
userset below unions alone. The main statement says so of loaded schemas. A `this` that stands below
an intersection or a difference only does not make a relation direct.
-/

namespace Rebac.Schema

/-- Who a relation holds for. -/
inductive Userset where
  /-- Those that tuples of the relation itself name. -/
  | this
  /-- Those that another relation holds for. -/
  | computed
  /-- Those that a relation of related objects holds for. -/
  | fromTuples
  | union (children : List Userset)
  | intersection (children : List Userset)
  | difference (base subtract : Userset)

namespace Userset

/-- The operators by which documents write usersets. -/
def operators : List String :=
  ["this", "computedUserset", "tupleToUserset", "union", "intersection", "difference"]

/-- An object has one of the operators and no other. Its other members have no bearing. -/
structure Operates (j : Json) (operator : String) (operand : Json) : Prop where
  here : j.get? operator = some operand
  alone : ∀ other ∈ operators, other ≠ operator → j.get? other = none

/-- How a document writes a userset. -/
inductive Spells : Userset → Json → Prop where
  | this {j operand : Json} (operates : Operates j "this" operand) : Spells .this j
  | computed {j operand : Json} (operates : Operates j "computedUserset" operand) :
    Spells .computed j
  | fromTuples {j operand : Json} (operates : Operates j "tupleToUserset" operand) :
    Spells .fromTuples j
  | union {j operand : Json} {children : List Userset} {items : List Json}
    (operates : Operates j "union" operand) (listed : operand.get? "child" = some (.arr items))
    (each : List.Forall₂ Spells children items) : Spells (.union children) j
  | intersection {j operand : Json} {children : List Userset} {items : List Json}
    (operates : Operates j "intersection" operand)
    (listed : operand.get? "child" = some (.arr items))
    (each : List.Forall₂ Spells children items) : Spells (.intersection children) j
  | difference {j operand first second : Json} {base subtract : Userset}
    (operates : Operates j "difference" operand) (whole : operand.get? "base" = some first)
    (taken : operand.get? "subtract" = some second) (spells : Spells base first)
    (spells' : Spells subtract second) : Spells (.difference base subtract) j

/-- A `this` stands somewhere in the tree. -/
inductive HasThis : Userset → Prop where
  | this : HasThis .this
  | union {child : Userset} {children : List Userset} (mem : child ∈ children)
    (inside : HasThis child) : HasThis (.union children)
  | intersection {child : Userset} {children : List Userset} (mem : child ∈ children)
    (inside : HasThis child) : HasThis (.intersection children)
  | base {base subtract : Userset} (inside : HasThis base) : HasThis (.difference base subtract)
  | subtract {base subtract : Userset} (inside : HasThis subtract) :
    HasThis (.difference base subtract)

/-- A `this` stands in the tree below unions alone. -/
inductive UnitesThis : Userset → Prop where
  | this : UnitesThis .this
  | union {child : Userset} {children : List Userset} (mem : child ∈ children)
    (inside : UnitesThis child) : UnitesThis (.union children)

/-- What the loader looks for is a `this` of the tree. It may miss others. -/
theorem UnitesThis.hasThis {u : Userset} (unites : u.UnitesThis) : u.HasThis := by
  induction unites with
  | this => exact .this
  | union mem _ ih => exact .union mem ih

theorem unitesThis_union {children : List Userset} :
    (Userset.union children).UnitesThis ↔ ∃ child ∈ children, child.UnitesThis := by
  constructor
  · rintro (_ | ⟨mem, inside⟩)
    exact ⟨_, mem, inside⟩
  · rintro ⟨child, mem, inside⟩
    exact .union mem inside

end Userset

/-! ## The search for `this` -/

/-- A userset is searched below its member `union` alone. -/
theorem unionContainsThis_eq (members : List (String × Json)) :
    unionContainsThis members = (Keyed.find? members "union").any operandContainsThis := by
  induction members with
  | nil => rfl
  | cons member rest ih =>
    obtain ⟨name, j⟩ := member
    simp only [unionContainsThis, Keyed.find?, ih]
    split <;> rfl

theorem childContainsThis_eq (members : List (String × Json)) :
    childContainsThis members = (Keyed.find? members "child").any listContainsThis := by
  induction members with
  | nil => rfl
  | cons member rest ih =>
    obtain ⟨name, j⟩ := member
    simp only [childContainsThis, Keyed.find?, ih]
    split <;> rfl

theorem someContainsThis_eq (items : List Json) :
    someContainsThis items = items.any containsThis := by
  induction items with
  | nil => rfl
  | cons j rest ih => rw [someContainsThis, ih, List.any_cons]

/-- The children of a union. Any other value has none. -/
def unitedChildren (j : Json) : List Json :=
  (((j.get? "union").bind (·.get? "child")).bind Json.arr?).getD []

/-- The search goes down into the children of unions, and nowhere else. -/
theorem containsThis_eq (j : Json) :
    containsThis j = ((j.get? "this").isSome || (unitedChildren j).any containsThis) := by
  have listed (children : Json) :
      listContainsThis children = (children.arr?.getD []).any containsThis := by
    cases children with
    | arr items => exact someContainsThis_eq items
    | null | bool | int | real | str | obj => rfl
  have operand (union : Json) :
      operandContainsThis union = (union.get? "child").any listContainsThis := by
    cases union with
    | obj members => exact childContainsThis_eq members
    | null | bool | int | real | str | arr => rfl
  cases j with
  | obj members =>
    have here : Keyed.find? members "union" = (Json.obj members).get? "union" := rfl
    rw [containsThis, unionContainsThis_eq, here, unitedChildren]
    congr 1
    cases (Json.obj members).get? "union" with
    | none => rfl
    | some union =>
      simp only [Option.any_some, Option.bind_some, operand]
      cases union.get? "child" with
      | none => rfl
      | some children => exact listed children
  | null | bool | int | real | str | arr => rfl

namespace Userset

/-- Nothing is found below any other operator. -/
theorem Operates.not_containsThis {j operand : Json} {operator : String}
    (operates : Operates j operator operand) (notThis : operator ≠ "this")
    (notUnion : operator ≠ "union") : ¬ containsThis j = true := by
  rw [containsThis_eq, unitedChildren, operates.alone "this" (by decide) notThis.symm,
    operates.alone "union" (by decide) notUnion.symm]
  exact Bool.false_ne_true

mutual

/-- The search for `this` in what a document writes finds the `this` that unions alone lead to. -/
theorem Spells.containsThis_iff :
    ∀ {u : Userset} {j : Json}, u.Spells j → (containsThis j = true ↔ u.UnitesThis)
  | .this, j, .this operates => by
    rw [containsThis_eq, operates.here]
    exact iff_of_true rfl .this
  | .computed, j, .computed operates =>
    iff_of_false (operates.not_containsThis (by decide) (by decide)) (by rintro ⟨⟩)
  | .fromTuples, j, .fromTuples operates =>
    iff_of_false (operates.not_containsThis (by decide) (by decide)) (by rintro ⟨⟩)
  | .union children, j, .union operates listed each => by
    rw [containsThis_eq, operates.alone "this" (by decide) (by decide), unitedChildren,
      operates.here, Option.bind_some, listed, unitesThis_union]
    exact any_containsThis_iff each
  | .intersection children, j, .intersection operates _ _ =>
    iff_of_false (operates.not_containsThis (by decide) (by decide)) (by rintro ⟨⟩)
  | .difference base subtract, j, .difference operates _ _ _ _ =>
    iff_of_false (operates.not_containsThis (by decide) (by decide)) (by rintro ⟨⟩)

/-- The search of the loader, over the children of a union and their trees. -/
theorem any_containsThis_iff :
    ∀ {children : List Userset} {items : List Json}, List.Forall₂ Spells children items →
      (items.any containsThis = true ↔ ∃ child ∈ children, child.UnitesThis)
  | [], [], .nil => by simp
  | child :: children, j :: items, .cons spells each => by
    simp only [List.any_cons, Bool.or_eq_true, List.exists_mem_cons_iff]
    exact or_congr spells.containsThis_iff (any_containsThis_iff each)

end

end Userset

/-! ## Relations of loaded schemas -/

/-- A document writes a relation of a type, with this userset and this metadata. -/
def WritesRelation (document : Json) (typeName name : String) (userset : Json)
    (metadata : Option Json) : Prop :=
  ∃ types entry, document.get? "type_definitions" = some (.arr types) ∧ entry ∈ types ∧
    firstMember? entry ["type", "name"] = some (.str typeName) ∧
    (∃ layout entries, Writes SaysName (entry.get? "relations") layout entries ∧
      (name, userset) ∈ entries) ∧
    metadata = ((entry.get? "metadata").bind (·.get? "relations")).bind (·.get? name)

/-- A relation that is written is found in the schema, and its kind is that of its userset and its
metadata. -/
theorem relation?_of_writes {document : Json} {model : Model} {typeName name : String}
    {userset : Json} {metadata : Option Json} (loaded : Model.ofJson document = .ok model)
    (writes : WritesRelation document typeName name userset metadata) :
    (model.type? typeName).bind (·.relation? name) =
      some (Relation.named name (relationKind userset metadata)) := by
  obtain ⟨types, entry, found, mem, named, ⟨layout, entries, written, own⟩, rfl⟩ := writes
  obtain ⟨_, found', each⟩ := findsTypes loaded
  cases found.symm.trans found'
  obtain ⟨t, finds⟩ := exists_forall₂_iff.mp ⟨_, each⟩ entry mem
  obtain ⟨_, _, written', relations⟩ := finds.relations
  rw [← written.unique written'] at relations
  obtain ⟨r, own⟩ := exists_forall₂_iff.mp ⟨_, relations⟩ _ own
  cases named.symm.trans finds.named
  rw [finds.found, Option.bind_some, own.found name rfl, Option.some.injEq, Relation.mk.injEq]
  exact ⟨own.named, own.kind⟩

/-- Metadata lists user types that may be assigned. -/
def NamesUserTypes (metadata : Option Json) : Prop :=
  ∃ types, metadata.bind (·.get? "directly_related_user_types") = some (.arr types) ∧ types ≠ []

theorem listsUserTypes_iff {metadata : Option Json} :
    listsUserTypes metadata = true ↔ NamesUserTypes metadata := by
  unfold listsUserTypes NamesUserTypes
  split
  next types listed => simp [listed]
  next other =>
    refine iff_of_false Bool.false_ne_true ?_
    rintro ⟨types, listed, -⟩
    exact other types listed

/-- Where nothing says whether a relation is direct, it is direct where its metadata lists user
types, or where unions alone lead to a `this` in its userset. -/
theorem relationKind_eq_direct_iff {userset : Json} {metadata : Option Json} {u : Userset}
    (spells : u.Spells userset) (unflagged : userset.get? "direct" = none) :
    relationKind userset metadata = .direct ↔ NamesUserTypes metadata ∨ u.UnitesThis := by
  rw [← listsUserTypes_iff, ← spells.containsThis_iff, ← Bool.or_eq_true]
  simp only [relationKind, unflagged, Option.bind_none]
  split <;> simp_all

/-- A loaded relation whose document does not say whether it is direct is direct exactly if its
metadata lists user types or unions alone lead to a `this` in its userset, and computed otherwise.
So a `this` anywhere in the userset makes it direct, unless no user types are listed and every
`this` is below an intersection or a difference. -/
theorem loaded_direct_iff_unitesThis {document : Json} {model : Model} {typeName name : String}
    {userset : Json} {metadata : Option Json} {u : Userset}
    (loaded : Model.ofJson document = .ok model)
    (writes : WritesRelation document typeName name userset metadata)
    (spells : u.Spells userset) (unflagged : userset.get? "direct" = none) :
    ∃ r, (model.type? typeName).bind (·.relation? name) = some r ∧
      (r.kind = .direct ↔ NamesUserTypes metadata ∨ u.UnitesThis) ∧
      (r.kind = .computed ↔ ¬ (NamesUserTypes metadata ∨ u.UnitesThis)) ∧
      ((r.kind = .direct ↔ NamesUserTypes metadata ∨ u.HasThis) ↔
        (u.HasThis → NamesUserTypes metadata ∨ u.UnitesThis)) := by
  have direct : relationKind userset metadata = .direct ↔ _ :=
    relationKind_eq_direct_iff spells unflagged
  have computed (kind : RelationKind) : kind = .computed ↔ ¬ kind = .direct := by
    cases kind <;> simp
  refine ⟨_, relation?_of_writes loaded writes, direct, ?_, ?_⟩
  · exact (computed _).trans (not_congr direct)
  · have reached := @Userset.UnitesThis.hasThis u
    change (relationKind userset metadata = .direct ↔ _) ↔ _
    rw [direct]
    tauto

/-- A document with one relation, which has this userset. -/
def viewerDocument (userset : Json) : Json :=
  .obj [("type_definitions", .arr [
    .obj [("type", .str "form"), ("relations", .obj [("viewer", userset)])]])]

theorem writesRelation_viewer (userset : Json) :
    WritesRelation (viewerDocument userset) "form" "viewer" userset none :=
  ⟨_, _, rfl, List.mem_singleton.mpr rfl, rfl, ⟨_, _, .object _, List.mem_singleton.mpr rfl⟩, rfl⟩

/-- An operation on usersets that are listed as its children. -/
def listedUnder (operator : String) (children : List Json) : Json :=
  .obj [(operator, .obj [("child", .arr children)])]

/-- The editors, and those that tuples name. -/
def editorsAndNamed : List Json :=
  [.obj [("computedUserset", .obj [("relation", .str "editor")])], .obj [("this", .obj [])]]

theorem forall₂_spells_editorsAndNamed :
    List.Forall₂ Userset.Spells [.computed, .this] editorsAndNamed :=
  .cons (.computed ⟨rfl, by decide⟩) (.cons (.this ⟨rfl, by decide⟩) .nil)

theorem spells_intersection_editorsAndNamed :
    Userset.Spells (.intersection [.computed, .this])
      (listedUnder "intersection" editorsAndNamed) :=
  .intersection ⟨rfl, by decide⟩ rfl forall₂_spells_editorsAndNamed

/-- A union of an intersection and a union, each of which has a `this`. The one in the inner union
makes the relation direct; the one in the intersection would not. -/
theorem loaded_direct_iff_unitesThis_nested :
    let userset := listedUnder "union"
      [listedUnder "intersection" editorsAndNamed, listedUnder "union" editorsAndNamed]
    let u : Userset := .union [.intersection [.computed, .this], .union [.computed, .this]]
    ∃ model, Model.ofJson (viewerDocument userset) = .ok model ∧
      WritesRelation (viewerDocument userset) "form" "viewer" userset none ∧
      u.Spells userset ∧ userset.get? "direct" = none ∧
      ∃ r, (model.type? "form").bind (·.relation? "viewer") = some r ∧ r.kind = .direct := by
  intro userset u
  have spells : u.Spells userset :=
    .union ⟨rfl, by decide⟩ rfl (.cons spells_intersection_editorsAndNamed
      (.cons (.union ⟨rfl, by decide⟩ rfl forall₂_spells_editorsAndNamed) .nil))
  have unites : u.UnitesThis :=
    .union (List.mem_cons_of_mem _ List.mem_cons_self)
      (.union (List.mem_cons_of_mem _ List.mem_cons_self) .this)
  have loaded : Model.ofJson (viewerDocument userset) =
      .ok ⟨"1.1", [⟨"form", [⟨"viewer", .direct⟩]⟩], []⟩ := by decide +kernel
  have writes := writesRelation_viewer userset
  obtain ⟨r, found, direct, -⟩ := loaded_direct_iff_unitesThis loaded writes spells rfl
  exact ⟨_, loaded, writes, spells, rfl, r, found, direct.mpr (.inr unites)⟩

/-- The editors that tuples name: the userset has a `this`, but the relation is computed. -/
theorem intersection_hides_this :
    let userset := listedUnder "intersection" editorsAndNamed
    let u : Userset := .intersection [.computed, .this]
    ∃ model, Model.ofJson (viewerDocument userset) = .ok model ∧
      WritesRelation (viewerDocument userset) "form" "viewer" userset none ∧
      u.Spells userset ∧ userset.get? "direct" = none ∧
      ¬ ∀ r, (model.type? "form").bind (·.relation? "viewer") = some r →
        (r.kind = .direct ↔ NamesUserTypes none ∨ u.HasThis) := by
  intro userset u
  have loaded : Model.ofJson (viewerDocument userset) =
      .ok ⟨"1.1", [⟨"form", [⟨"viewer", .computed⟩]⟩], []⟩ := by decide +kernel
  have has : u.HasThis := .intersection (List.mem_cons_of_mem _ List.mem_cons_self) .this
  refine ⟨_, loaded, writesRelation_viewer userset, spells_intersection_editorsAndNamed, rfl, ?_⟩
  intro claimed
  have direct := (claimed ⟨"viewer", .computed⟩ (by decide +kernel)).mpr (.inr has)
  cases direct

end Rebac.Schema
