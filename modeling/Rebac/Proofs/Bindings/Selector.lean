import Rebac.Bindings.Source
import Rebac.Proofs.Bindings.SelectorText
import Rebac.Sample

/-!
# Selectors lead to relations

The values of the selectors of a type, what each is made for, and where its match leads. For a
schema that was loaded the two agree: every value leads to the relation that it is made for, and
every relation has one value.
-/

namespace Rebac.Bindings

open Naming (Member canonical resolve?)
open Schema (Model TypeDefinition Relation WellNamed)

/-- A value of one of the selectors of a type. -/
inductive Selector where
  /-- A plain variant of the selector of the type. -/
  | own (variant : String)
  /-- A variant of the selector of the group. -/
  | grouped (variant : String)
  /-- The variant of the selector of the type that wraps one of the group. -/
  | wrapped (variant : String)
deriving DecidableEq, Repr

/-- The value without the variant around it. -/
def Selector.unwrapped : Selector → Selector
  | .wrapped variant => .grouped variant
  | s => s

/-- The value in the text that a value of the plan is. -/
def Selector.value (p : TypePlan) : Selector → SelectorValue
  | .own variant => .plain p.selectorName variant
  | .grouped variant => .plain p.groupSelectorName variant
  | .wrapped variant => .around p.selectorName "Perform" (.plain p.groupSelectorName variant)

/-- The path of variants by which chains are looked up. -/
def Selector.path : Selector → List String
  | .own variant => [variant]
  | .grouped variant | .wrapped variant => ["Perform", variant]

/-- The relation that a value is made for: a direct one by its variant, the only computed one, or
one of several computed ones by its variant, in its own selector and wrapped. -/
inductive Selects (t : TypeDefinition) : Selector → Relation → Prop
  | direct {r : Relation} {variant : String} (assigned : r ∈ t.direct)
      (named : typeIdentifier? (Naming.pascal r.name) = some variant) : Selects t (.own variant) r
  | only {r : Relation} (alone : t.computed = [r]) : Selects t (.own "Perform") r
  | grouped {r : Relation} {variant : String} (several : 1 < t.computed.length)
      (ruled : r ∈ t.computed)
      (named : typeIdentifier? (Naming.pascal r.name) = some variant) :
      Selects t (.grouped variant) r
  | wrapped {r : Relation} {variant : String} (inner : Selects t (.grouped variant) r) :
      Selects t (.wrapped variant) r

/-- The values for the computed relations. -/
def Perform.selectors : Perform → List Selector
  | .absent => []
  | .scalar _ => [.own "Perform"]
  | .group relations => relations.map (.wrapped ·.variant) ++ relations.map (.grouped ·.variant)

namespace TypePlan

/-- The values of the selectors that the bindings of a type declare. -/
def selectors (p : TypePlan) : List Selector :=
  match p.form with
  | .marker => []
  | .resource direct perform => direct.map (.own ·.variant) ++ perform.selectors

end TypePlan

/-! ## Values and relations -/

/-- Plans and relations correspond by name and variant. -/
theorem Planned.exists_iff {typeName : String} {relations : List Relation}
    {plans : List RelationPlan} (planned : Planned typeName relations plans)
    {name variant : String} :
    (∃ p ∈ plans, p.name = name ∧ p.variant = variant) ↔
      ∃ r ∈ relations, r.name = name ∧ typeIdentifier? (Naming.pascal r.name) = some variant := by
  constructor
  · rintro ⟨p, mem, rfl, rfl⟩
    obtain ⟨r, own, ok⟩ := planned.relation_of_mem mem
    obtain ⟨name, -, variant⟩ := RelationPlan.of_ok.mp ok
    exact ⟨r, own, name.symm, variant⟩
  · rintro ⟨r, mem, rfl, named⟩
    obtain ⟨p, own, ok⟩ := planned.plan_of_mem mem
    obtain ⟨name, -, variant⟩ := RelationPlan.of_ok.mp ok
    rw [named] at variant
    exact ⟨p, own, name, (Option.some.inj variant).symm⟩

/-- One relation is planned as the only one. -/
theorem Planned.singleton_iff {typeName : String} {relations : List Relation}
    {plans : List RelationPlan} (planned : Planned typeName relations plans) {name : String} :
    (∃ p, plans = [p] ∧ p.name = name) ↔ ∃ r, relations = [r] ∧ r.name = name := by
  have names := planned.names
  rw [← List.map_eq_singleton_iff, ← List.map_eq_singleton_iff, names]

theorem Planned.length {typeName : String} {relations : List Relation}
    {plans : List RelationPlan} (planned : Planned typeName relations plans) :
    plans.length = relations.length := by
  rw [← List.length_map (·.name), planned.names, List.length_map]

theorem Selects.mem {t : TypeDefinition} {s : Selector} {r : Relation} (selects : Selects t s r) :
    r ∈ t.relations := by
  induction selects with
  | direct assigned _ => exact (List.mem_filter.mp assigned).1
  | @only r alone =>
    have ruled : r ∈ t.computed := alone ▸ List.mem_singleton_self r
    exact (List.mem_filter.mp ruled).1
  | grouped _ ruled _ => exact (List.mem_filter.mp ruled).1
  | wrapped _ ih => exact ih

/-- The value, without the variant around it, by which a relation of a type is reached. -/
def valueOf? (t : TypeDefinition) (r : Relation) : Option Selector :=
  match r.kind with
  | .direct => (typeIdentifier? (Naming.pascal r.name)).map .own
  | .computed =>
    if t.computed.length = 1 then some (.own "Perform")
    else (typeIdentifier? (Naming.pascal r.name)).map .grouped

theorem Selects.valueOf?_eq {t : TypeDefinition} {s : Selector} {r : Relation}
    (selects : Selects t s r) : valueOf? t r = some s.unwrapped := by
  induction selects with
  | @direct r variant assigned named =>
    have kind : r.kind = .direct := by simpa using (List.mem_filter.mp assigned).2
    simp [valueOf?, kind, named, Selector.unwrapped]
  | @only r alone =>
    have ruled : r ∈ t.computed := alone ▸ List.mem_singleton_self r
    have kind : r.kind = .computed := by simpa using (List.mem_filter.mp ruled).2
    simp [valueOf?, kind, alone, Selector.unwrapped]
  | @grouped r variant several ruled named =>
    have kind : r.kind = .computed := by simpa using (List.mem_filter.mp ruled).2
    have more : t.computed.length ≠ 1 := by omega
    simp [valueOf?, kind, more, named, Selector.unwrapped]
  | wrapped _ ih => exact ih

/-- Every relation has a value that is made for it. -/
theorem ResourcePlanned.exists_value {t : TypeDefinition} {direct computed : List RelationPlan}
    (planned : ResourcePlanned t direct computed) {r : Relation} (mem : r ∈ t.relations) :
    ∃ s, Selects t s r := by
  cases kind : r.kind with
  | direct =>
    have assigned : r ∈ t.direct := List.mem_filter.mpr ⟨mem, decide_eq_true kind⟩
    obtain ⟨d, -, ok⟩ := planned.directPlanned.plan_of_mem assigned
    exact ⟨_, .direct assigned (RelationPlan.of_ok.mp ok).2.2⟩
  | computed =>
    have ruled : r ∈ t.computed := List.mem_filter.mpr ⟨mem, decide_eq_true kind⟩
    by_cases several : 1 < t.computed.length
    · obtain ⟨d, -, ok⟩ := planned.computedPlanned.plan_of_mem ruled
      exact ⟨_, .grouped several ruled (RelationPlan.of_ok.mp ok).2.2⟩
    · have some : 0 < t.computed.length := List.length_pos_of_mem ruled
      obtain ⟨r', alone⟩ := List.length_eq_one_iff.mp (show t.computed.length = 1 by omega)
      have same : r = r' := List.mem_singleton.mp (alone ▸ ruled)
      exact ⟨_, .only (same ▸ alone)⟩

theorem Perform.of_several {computed : List RelationPlan} (several : 1 < computed.length) :
    Perform.of computed = .group computed := by
  rcases Perform.of_cases computed with ⟨rfl, -⟩ | ⟨d, rfl, -⟩ | ⟨-, kind⟩
  · simp at several
  · simp at several
  · exact kind

theorem ResourcePlanned.group_of_several {t : TypeDefinition} {direct computed : List RelationPlan}
    (planned : ResourcePlanned t direct computed) (several : 1 < t.computed.length) :
    Perform.of computed = .group computed :=
  Perform.of_several (planned.computedPlanned.length ▸ several)

/-- The variant for the computed relations is a value by itself, or it wraps the values of the
group. -/
theorem Perform.mem_variants {computed : List RelationPlan} {groupSelectorName : String}
    {variant : Variant}
    (mem : variant ∈ (Perform.of computed).variants groupSelectorName) :
    (variant = ⟨"Perform", none⟩ ∧ .own "Perform" ∈ (Perform.of computed).selectors) ∨
      variant = ⟨"Perform", some groupSelectorName⟩ ∧ Perform.of computed = .group computed := by
  rcases Perform.of_cases computed with ⟨-, kind⟩ | ⟨d, -, kind⟩ | ⟨-, kind⟩ <;> rw [kind] at mem ⊢
  · cases mem
  · exact .inl ⟨List.mem_singleton.mp mem, List.mem_singleton_self _⟩
  · exact .inr ⟨List.mem_singleton.mp mem, rfl⟩

theorem TypePlan.selectors_resource {p : TypePlan} {direct : List RelationPlan} {perform : Perform}
    (form : p.form = .resource direct perform) :
    p.selectors = direct.map (.own ·.variant) ++ perform.selectors := by
  rw [TypePlan.selectors, form]

/-- A value of the selectors of a type with these relations. -/
inductive IsSelector (direct computed : List RelationPlan) : Selector → Prop
  | own {d : RelationPlan} (mem : d ∈ direct) : IsSelector direct computed (.own d.variant)
  | scalar {d : RelationPlan} (single : computed = [d]) :
      IsSelector direct computed (.own "Perform")
  | wrapped {d : RelationPlan} (several : 1 < computed.length) (mem : d ∈ computed) :
      IsSelector direct computed (.wrapped d.variant)
  | grouped {d : RelationPlan} (several : 1 < computed.length) (mem : d ∈ computed) :
      IsSelector direct computed (.grouped d.variant)

/-- The forms of the values that the bindings of a type declare. -/
theorem isSelector_of_mem {p : TypePlan} {direct computed : List RelationPlan} {s : Selector}
    (form : p.form = .resource direct (Perform.of computed)) (mem : s ∈ p.selectors) :
    IsSelector direct computed s := by
  rw [TypePlan.selectors_resource form, List.mem_append] at mem
  rcases mem with own | ruled
  · obtain ⟨d, mem, rfl⟩ := List.mem_map.mp own
    exact .own mem
  · rcases Perform.of_cases computed with ⟨-, kind⟩ | ⟨d, single, kind⟩ | ⟨several, kind⟩
    · rw [kind] at ruled
      cases ruled
    · rw [kind, Perform.selectors, List.mem_singleton] at ruled
      exact ruled ▸ .scalar single
    · rw [kind, Perform.selectors, List.mem_append] at ruled
      rcases ruled with outer | inner
      · obtain ⟨d, mem, rfl⟩ := List.mem_map.mp outer
        exact .wrapped several mem
      · obtain ⟨d, mem, rfl⟩ := List.mem_map.mp inner
        exact .grouped several mem

section

variable {p : TypePlan} {direct computed : List RelationPlan} {s : Selector}
  (form : p.form = .resource direct (Perform.of computed))
  (planned : ResourcePlanned p.definition direct computed)

include form planned

/-- Every value is made for a relation. -/
theorem exists_selects (mem : s ∈ p.selectors) : ∃ r, Selects p.definition s r := by
  have ruled {d : RelationPlan} (several : 1 < computed.length) (mem : d ∈ computed) :
      ∃ r, Selects p.definition (.grouped d.variant) r := by
    obtain ⟨r, own, -, named⟩ := planned.computedPlanned.exists_iff.mp ⟨d, mem, rfl, rfl⟩
    exact ⟨r, .grouped (planned.computedPlanned.length ▸ several) own named⟩
  cases isSelector_of_mem form mem with
  | own inside =>
    obtain ⟨r, assigned, -, named⟩ := planned.directPlanned.exists_iff.mp ⟨_, inside, rfl, rfl⟩
    exact ⟨r, .direct assigned named⟩
  | scalar single =>
    obtain ⟨r, alone, -⟩ := planned.computedPlanned.singleton_iff.mp ⟨_, single, rfl⟩
    exact ⟨r, .only alone⟩
  | wrapped several inside =>
    obtain ⟨r, selects⟩ := ruled several inside
    exact ⟨r, .wrapped selects⟩
  | grouped several inside => exact ruled several inside

/-- Whatever is made for a relation is a value. -/
theorem mem_selectors {r : Relation} (selects : Selects p.definition s r) : s ∈ p.selectors := by
  rw [TypePlan.selectors_resource form, List.mem_append]
  cases selects with
  | direct assigned named =>
    obtain ⟨d, mem, -, rfl⟩ := planned.directPlanned.exists_iff.mpr ⟨r, assigned, rfl, named⟩
    exact .inl (List.mem_map_of_mem mem)
  | only alone =>
    obtain ⟨d, rfl, -⟩ := planned.computedPlanned.singleton_iff.mpr ⟨r, alone, rfl⟩
    exact .inr (List.mem_singleton_self _)
  | grouped several ruled named =>
    obtain ⟨d, mem, -, rfl⟩ := planned.computedPlanned.exists_iff.mpr ⟨r, ruled, rfl, named⟩
    rw [planned.group_of_several several]
    exact .inr (List.mem_append_right _ (List.mem_map_of_mem mem))
  | wrapped inner =>
    cases inner with
    | grouped several ruled named =>
      obtain ⟨d, mem, -, rfl⟩ := planned.computedPlanned.exists_iff.mpr ⟨r, ruled, rfl, named⟩
      rw [planned.group_of_several several]
      exact .inr (List.mem_append_left _ (List.mem_map_of_mem mem))

/-! ## Values and chains -/

omit form in
theorem find?_perform (kind : Perform.of computed = .group computed) :
    (p.selectorTable direct (Perform.of computed)).arms.find? (·.variant = "Perform") =
      some ⟨"Perform", .inner⟩ := by
  have arm : ⟨"Perform", .inner⟩ ∈ (p.selectorTable direct (Perform.of computed)).arms := by
    rw [kind]
    exact List.mem_append_right _ (List.mem_singleton_self _)
  exact Keyed.find?_of_nodup_keys (nodup_selectorTable_variants p planned) arm

omit planned in
theorem chainAt?_selector (variant : String) :
    p.chainAt? [variant] = (p.selectorTable direct (Perform.of computed)).chain? variant := by
  simp only [TypePlan.chainAt?, form]

omit planned in
theorem chainAt?_group (kind : Perform.of computed = .group computed) (variant : String) :
    p.chainAt? ["Perform", variant] = (p.groupTable computed).chain? variant := by
  simp only [TypePlan.chainAt?, form, kind]

/-- Where the tables are read from a text, the members of a value are the chain at its path. -/
theorem members?_value {outline : List Piece}
    (read : ∀ t ∈ p.tables, SelectorTable.ofText? outline t.owner = some t)
    (mem : s ∈ p.selectors) : (s.value p).members? outline = p.chainAt? s.path := by
  have table : SelectorTable.ofText? outline p.selectorName =
      some (p.selectorTable direct (Perform.of computed)) := read _ (selectorTable_mem_tables form)
  have own (variant : String) : (Selector.value p (.own variant)).members? outline =
      p.chainAt? [variant] := by
    rw [chainAt?_selector form, Selector.value, SelectorValue.members?, table, Option.bind_some]
  have grouped (kind : Perform.of computed = .group computed) (variant : String) :
      (Selector.value p (.grouped variant)).members? outline =
        p.chainAt? ["Perform", variant] := by
    have inner : SelectorTable.ofText? outline p.groupSelectorName =
        some (p.groupTable computed) := read _ (groupTable_mem_tables (kind ▸ form))
    rw [chainAt?_group form kind, Selector.value, SelectorValue.members?, inner, Option.bind_some]
  cases isSelector_of_mem form mem with
  | own _ => exact own _
  | scalar _ => exact own "Perform"
  | wrapped several _ =>
    -- The arm around the group hands over to the match of the group.
    have kind := Perform.of_several several
    rw [Selector.value, SelectorValue.members?, table, Option.bind_eq_bind, Option.bind_some,
      find?_perform planned kind]
    exact grouped kind _
  | grouped several _ => exact grouped (Perform.of_several several) _

/-! ## Values in the text -/

section

variable {outline : List Piece}
  (selector : variantsOf? outline p.selectorName =
    some (direct.map (fun r => ⟨r.variant, none⟩) ++
      (Perform.of computed).variants p.groupSelectorName))
  (group : Perform.of computed = .group computed →
    variantsOf? outline p.groupSelectorName = some (computed.map fun r => ⟨r.variant, none⟩))

include selector group

omit planned in
/-- The enumerations in the text have every value of the plan. -/
theorem exists_of_mem_selectors (mem : s ∈ p.selectors) : (s.value p).Exists outline := by
  have grouped {d : RelationPlan} (several : 1 < computed.length) (mem : d ∈ computed) :
      (Selector.value p (.grouped d.variant)).Exists outline :=
    ⟨_, group (Perform.of_several several), List.mem_map.mpr ⟨d, mem, rfl⟩⟩
  cases isSelector_of_mem form mem with
  | own inside =>
    exact ⟨_, selector, List.mem_append_left _ (List.mem_map.mpr ⟨_, inside, rfl⟩)⟩
  | scalar single =>
    subst single
    exact ⟨_, selector, List.mem_append_right _ (List.mem_singleton_self _)⟩
  | wrapped several inside =>
    rw [Perform.of_several several] at selector
    exact ⟨⟨_, selector, List.mem_append_right _ (List.mem_singleton_self _)⟩,
      grouped several inside⟩
  | grouped several inside => exact grouped several inside

omit form planned selector in
/-- A value of the enumeration of the group is one of its variants. -/
theorem exists_grouped (kind : Perform.of computed = .group computed) {v : SelectorValue}
    (own : v.enum = p.groupSelectorName) (declared : v.Exists outline) :
    ∃ d ∈ computed, v = .plain p.groupSelectorName d.variant := by
  cases v with
  | plain enum variant =>
    replace own : enum = p.groupSelectorName := own
    subst own
    obtain ⟨variants, read, mem⟩ := declared
    rw [group kind, Option.some.injEq] at read
    obtain ⟨d, inside, same⟩ := List.mem_map.mp (read ▸ mem)
    exact ⟨d, inside, by rw [(Variant.mk.inj same).1]⟩
  | around enum variant inner =>
    replace own : enum = p.groupSelectorName := own
    subst own
    obtain ⟨⟨variants, read, mem⟩, -⟩ := declared
    rw [group kind, Option.some.injEq] at read
    obtain ⟨d, -, same⟩ := List.mem_map.mp (read ▸ mem)
    cases (Variant.mk.inj same).2

omit planned in
/-- A value of the enumeration of the type is a plain variant of it, or one around a variant of the
group. -/
theorem exists_ungrouped {v : SelectorValue} (own : v.enum = p.selectorName)
    (declared : v.Exists outline) : ∃ s ∈ p.selectors, s.value p = v := by
  have variants {variant : Variant}
      (mem : ∃ variants, variantsOf? outline p.selectorName = some variants ∧ variant ∈ variants) :
      (∃ d ∈ direct, variant = ⟨d.variant, none⟩) ∨
        variant ∈ (Perform.of computed).variants p.groupSelectorName := by
    obtain ⟨variants, read, mem⟩ := mem
    rw [selector, Option.some.injEq] at read
    rcases List.mem_append.mp (read ▸ mem) with plain | ruled
    · obtain ⟨d, inside, same⟩ := List.mem_map.mp plain
      exact .inl ⟨d, inside, same.symm⟩
    · exact .inr ruled
  rw [TypePlan.selectors_resource form]
  cases v with
  | plain enum variant =>
    replace own : enum = p.selectorName := own
    subst own
    rcases variants declared with ⟨d, mem, same⟩ | ruled
    · rw [(Variant.mk.inj same).1]
      exact ⟨.own d.variant, List.mem_append_left _ (List.mem_map.mpr ⟨d, mem, rfl⟩), rfl⟩
    · rcases Perform.mem_variants ruled with ⟨same, mem⟩ | ⟨same, -⟩
      · rw [(Variant.mk.inj same).1]
        exact ⟨.own "Perform", List.mem_append_right _ mem, rfl⟩
      · cases (Variant.mk.inj same).2
  | around enum variant inner =>
    replace own : enum = p.selectorName := own
    subst own
    obtain ⟨outer, within⟩ := declared
    rcases variants outer with ⟨d, -, same⟩ | ruled
    · cases (Variant.mk.inj same).2
    · rcases Perform.mem_variants ruled with ⟨same, -⟩ | ⟨same, kind⟩
      · cases (Variant.mk.inj same).2
      · obtain ⟨rfl, wraps⟩ := Variant.mk.inj same
        obtain ⟨d, mem, rfl⟩ := exists_grouped group kind (Option.some.inj wraps) within
        refine ⟨.wrapped d.variant, List.mem_append_right _ ?_, rfl⟩
        rw [kind]
        exact List.mem_append_left _ (List.mem_map.mpr ⟨d, mem, rfl⟩)

omit planned in
/-- The values in the text are those of the plan. -/
theorem exists_iff_selector {table : SelectorTable} (own : table ∈ p.tables) {v : SelectorValue}
    (of : v.enum = table.owner) : v.Exists outline ↔ ∃ s ∈ p.selectors, s.value p = v := by
  constructor
  · intro declared
    rcases eq_of_mem_tables form own with rfl | ⟨rfl, kind⟩
    · exact exists_ungrouped form selector group of declared
    · obtain ⟨d, mem, rfl⟩ := exists_grouped group kind of declared
      refine ⟨.grouped d.variant, ?_, rfl⟩
      rw [TypePlan.selectors_resource form, kind]
      exact List.mem_append_right _ (List.mem_append_right _ (List.mem_map.mpr ⟨d, mem, rfl⟩))
  · rintro ⟨s, mem, rfl⟩
    exact exists_of_mem_selectors form selector group mem

end

variable (named : WellNamed p.definition.relations)

include named

theorem unambiguous_of_mem_tables {table : SelectorTable} (own : table ∈ p.tables) :
    table.Unambiguous := by
  rcases eq_of_mem_tables form own with rfl | ⟨rfl, kind⟩
  · exact selectorTable_unambiguous p planned named
  · exact groupTable_unambiguous p planned named kind

theorem chainAt?_direct {d : RelationPlan} (mem : d ∈ direct) :
    p.chainAt? [d.variant] = some [.named d.name] := by
  have unambiguous := selectorTable_unambiguous p planned named
  have entry : d.entry ∈ (p.selectorTable direct (Perform.of computed)).constants :=
    List.mem_append_left _ (List.mem_map_of_mem mem)
  have arm : d.arm ∈ (p.selectorTable direct (Perform.of computed)).arms :=
    List.mem_append_left _ (List.mem_map_of_mem mem)
  rw [chainAt?_selector form]
  exact unambiguous.chain?_eq arm entry

theorem chainAt?_only {d : RelationPlan} (single : computed = [d]) :
    p.chainAt? ["Perform"] = some [.named performName, .positional 0 [d.name]] := by
  have unambiguous := selectorTable_unambiguous p planned named
  subst single
  have entry : ⟨chainConstant performName, [.named performName, .element 0 [d.name]]⟩ ∈
      (p.selectorTable direct (Perform.of [d])).constants :=
    List.mem_append_right _ (List.mem_singleton_self _)
  have arm : ⟨"Perform", .constant (chainConstant performName)⟩ ∈
      (p.selectorTable direct (Perform.of [d])).arms :=
    List.mem_append_right _ (List.mem_singleton_self _)
  rw [chainAt?_selector form]
  exact unambiguous.chain?_eq arm entry

theorem chainAt?_grouped (kind : Perform.of computed = .group computed) {k : Nat} {d : RelationPlan}
    (place : computed[k]? = some d) :
    p.chainAt? ["Perform", d.variant] =
      some [.named performName, .positional k (computed.map (·.name))] := by
  have unambiguous := groupTable_unambiguous p planned named kind
  have entry := mem_groupEntries place 0
  rw [Nat.zero_add] at entry
  have arm : d.arm ∈ (p.groupTable computed).arms :=
    List.mem_map_of_mem (List.mem_of_getElem? place)
  rw [chainAt?_group form kind]
  exact unambiguous.chain?_eq arm entry

/-- The chain of a value selects the relation that the value is made for. -/
theorem Selects.resolve?_chainAt {r : Relation} (selects : Selects p.definition s r) :
    ∃ chain, p.chainAt? s.path = some chain ∧ resolve? chain = some r.name := by
  induction selects with
  | direct assigned variant =>
    obtain ⟨d, mem, name, rfl⟩ := planned.directPlanned.exists_iff.mpr ⟨_, assigned, rfl, variant⟩
    rw [← name]
    exact ⟨_, chainAt?_direct form planned named mem,
      planned.directPlanned.resolve?_eq named.direct mem rfl rfl⟩
  | only alone =>
    obtain ⟨d, single, name⟩ := planned.computedPlanned.singleton_iff.mpr ⟨_, alone, rfl⟩
    have mem : d ∈ computed := single ▸ List.mem_singleton_self d
    rw [← name]
    exact ⟨_, chainAt?_only form planned named single,
      planned.computedPlanned.resolve?_eq named.computed mem rfl rfl⟩
  | grouped several ruled variant =>
    obtain ⟨d, mem, name, rfl⟩ := planned.computedPlanned.exists_iff.mpr ⟨_, ruled, rfl, variant⟩
    obtain ⟨k, place⟩ := List.getElem?_of_mem mem
    have spelt : (Member.positional k (computed.map (·.name))).name = d.name := by
      rw [Member.name, List.getElem?_map, place]
      rfl
    rw [← name]
    exact ⟨_, chainAt?_grouped form planned named (planned.group_of_several several) place,
      planned.computedPlanned.resolve?_eq named.computed mem rfl spelt⟩
  | wrapped _ ih => exact ih

end

/-! ## In the text -/

/-- What the bindings of a type promise of its selectors, as they are read from an outline. -/
structure SelectorsBound (outline : List Piece) (p : TypePlan) : Prop where
  /-- The constants and the arms of each selector are read as they were planned, and no variant and
  no constant comes twice. -/
  declared : ∀ table ∈ p.tables,
    SelectorTable.ofText? outline table.owner = some table ∧ table.Unambiguous
  /-- The values that its enumerations have are those that were planned. -/
  values : ∀ table ∈ p.tables, ∀ v : SelectorValue, v.enum = table.owner →
    (v.Exists outline ↔ ∃ s ∈ p.selectors, s.value p = v)
  /-- The members of a value are the chain at its path. -/
  path : ∀ s ∈ p.selectors, (s.value p).members? outline = p.chainAt? s.path
  /-- Every value leads to the one relation that it is made for, whose name is sent. -/
  leads : ∀ s ∈ p.selectors, ∃ r ∈ p.definition.relations,
    (Selects p.definition s r ∧ ∀ r', Selects p.definition s r' → r' = r) ∧
      (∃ written, r.name = canonical written) ∧
      ∃ chain, (s.value p).members? outline = some chain ∧ resolve? chain = some r.name ∧
        (Naming.RelationName.selector chain).relation = r.name
  /-- Every relation is reached by one value, which may be wrapped. -/
  reached : ∀ r ∈ p.definition.relations, ∃ s ∈ p.selectors, Selects p.definition s r ∧
    ∀ s' ∈ p.selectors, ((s'.value p).members? outline).bind resolve? = some r.name →
      s'.unwrapped = s.unwrapped

theorem SelectorsBound.of_marker {p : TypePlan} (outline : List Piece) (form : p.form = .marker)
    (bare : p.definition.hasRelations = false) : SelectorsBound outline p := by
  have relations : p.definition.relations = [] := by simpa [TypeDefinition.hasRelations] using bare
  constructor
  case declared | values => simp [TypePlan.tables, form]
  case path | leads => simp [TypePlan.selectors, form]
  case reached => simp [relations]

theorem SelectorsBound.of_resource {plan : Plan} {outline : List Piece}
    (holds : HoldsTypes plan outline) (types : ∀ p ∈ plan.types, TypePlanned p)
    (distinct : (plan.tables.map (·.owner)).Nodup) {p : TypePlan} (own : p ∈ plan.types)
    {direct computed : List RelationPlan}
    (form : p.form = .resource direct (Perform.of computed))
    (planned : ResourcePlanned p.definition direct computed)
    (named : WellNamed p.definition.relations) : SelectorsBound outline p := by
  have same {s : Selector} {r r' : Relation} (selects : Selects p.definition s r)
      (selects' : Selects p.definition s r') : r' = r := by
    obtain ⟨chain, found, resolved⟩ := selects.resolve?_chainAt form planned named
    obtain ⟨chain', found', resolved'⟩ := selects'.resolve?_chainAt form planned named
    rw [found, Option.some.injEq] at found'
    rw [← found', resolved, Option.some.injEq] at resolved'
    exact named.eq_of_name selects'.mem selects.mem resolved'.symm
  have tables (table : SelectorTable) (mem : table ∈ p.tables) :
      SelectorTable.ofText? outline table.owner = some table :=
    holds.ofText?_eq types distinct own mem
  have members {s : Selector} (mem : s ∈ p.selectors) :
      (s.value p).members? outline = p.chainAt? s.path := members?_value form planned tables mem
  constructor
  case declared =>
    exact fun table mem => ⟨tables table mem, unambiguous_of_mem_tables form planned named mem⟩
  case values =>
    intro table mem v
    refine exists_iff_selector form ?_ (fun kind => ?_) mem
    · exact holds.variantsOf?_selector types distinct own form planned.directPlanned.spelt
    · have spelt := planned.members_spelt
      rw [kind] at form spelt
      exact holds.variantsOf?_group distinct own form spelt
  case path => exact fun s => members
  case leads =>
    intro s mem
    obtain ⟨r, selects⟩ := exists_selects form planned mem
    obtain ⟨chain, found, resolved⟩ := selects.resolve?_chainAt form planned named
    refine ⟨r, selects.mem, ⟨selects, fun r' => same selects⟩, named.canonical r selects.mem, chain,
      (members mem).trans found, resolved, ?_⟩
    rw [Naming.RelationName.relation, Naming.resolve, resolved, Option.getD_some]
  case reached =>
    intro r mem
    obtain ⟨s, selects⟩ := planned.exists_value mem
    refine ⟨s, mem_selectors form planned selects, selects, fun s' mem' leads => ?_⟩
    obtain ⟨r', selects'⟩ := exists_selects form planned mem'
    obtain ⟨chain, found, resolved⟩ := selects'.resolve?_chainAt form planned named
    rw [members mem', found, Option.bind_some, resolved, Option.some.injEq] at leads
    obtain rfl := named.eq_of_name selects'.mem selects.mem leads
    have value := selects'.valueOf?_eq
    rw [selects.valueOf?_eq] at value
    exact (Option.some.inj value).symm

/-- In bindings of a loaded schema every value of a selector leads to the one relation of its type
that it is made for, and every relation is reached by one value. The enumerations, their matches and
the constants are read from the lines of the text below the header. -/
theorem generate_selectors_lead {document : Json} {model : Model} {policy : Accessor.Policy}
    {source : String} (loaded : Model.ofJson document = .ok model)
    (made : generate model policy = .ok source) :
    ∃ plan below, Plan.of model = .ok plan ∧ plan.source policy = source ∧
      source = front model.version ++ below ∧ plan.types.map (·.definition) = model.types ∧
      ∀ p ∈ plan.types, SelectorsBound (outlineOf below) p := by
  obtain ⟨plan, planOf, text, definitions, planned, distinct⟩ := generate_ok made
  have version := Plan.version_of planOf
  have conditions := (conditionPlans_ok (Plan.of_conditions planOf)).1
  have holds := Plan.holdsTypes planned conditions policy
  refine ⟨plan, _, planOf, text, text ▸ version ▸ plan.source_eq policy, definitions,
    fun p mem => ?_⟩
  have own : p.definition ∈ model.types := definitions ▸ List.mem_map_of_mem mem
  have wellNamed := Model.wellNamed_of_ofJson loaded _ own
  rcases (planned p mem).form with ⟨bare, form⟩ | ⟨-, direct, computed, form, resource⟩
  · exact .of_marker _ form bare
  · exact .of_resource holds planned (Plan.nodup_owners distinct) mem form resource wellNamed

/-- A document with a type of each kind: users, keys with a single rule, and forms with relations
that are keywords. -/
def formDocument : Json :=
  let assigned := Json.obj [("this", .obj [])]
  let editors := Json.obj [("computedUserset", .obj [("relation", .str "Form-Editor")])]
  .obj [("type_definitions", .arr [
    .obj [("type", .str "user")],
    .obj [("type", .str "api_key"), ("relations", .obj [("owner", assigned), ("use", editors)])],
    .obj [("type", .str "form"), ("relations", .obj [("Form-Editor", assigned), ("type", assigned),
      ("edit", editors), ("self", editors)])]])]

/-- The values of its selectors. A single rule is the variant `Perform` itself, and of several each
is a value of its own and one inside that variant. -/
theorem generate_selectors_lead_form :
    ∃ (model : Model) (source : String) (plan : Plan) (below : String),
      Model.ofJson formDocument = .ok model ∧ generate model .standard = .ok source ∧
      plan.source .standard = source ∧ source = front model.version ++ below ∧
      plan.types.flatMap (·.selectors) = [.own "Owner", .own "Perform", .own "FormEditor",
        .own "Type", .wrapped "Edit", .wrapped "Self_", .grouped "Edit", .grouped "Self_"] ∧
      ∀ p ∈ plan.types, SelectorsBound (outlineOf below) p := by
  have values : ((Model.ofJson formDocument).toOption.bind fun model =>
      (Plan.of model).toOption.map fun plan => plan.types.flatMap (·.selectors)) =
      some [.own "Owner", .own "Perform", .own "FormEditor", .own "Type", .wrapped "Edit",
        .wrapped "Self_", .grouped "Edit", .grouped "Self_"] := by
    decide +kernel
  obtain ⟨model, plan, loaded, planned, selectors⟩ := exists_loaded_plan values
  have made := generate_of_plan planned .standard
  obtain ⟨plan', below, planOf, text, split, -, bound⟩ := generate_selectors_lead loaded made
  obtain rfl : plan = plan' := Except.ok.inj (planned.symm.trans planOf)
  exact ⟨model, _, plan, below, loaded, made, text, split, selectors, bound⟩

end Rebac.Bindings
