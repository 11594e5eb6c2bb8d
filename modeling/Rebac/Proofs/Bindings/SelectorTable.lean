import Rebac.Bindings.SelectorTable
import Rebac.Proofs.Bindings.Plan
import Rebac.Proofs.Schema.Loaded

/-!
# Looking up in selector tables

Where the variants of a table differ, and so do its constants, each variant leads to the one chain
that was written for it. The tables of a loaded schema are such tables: the variants were compared
when they were planned, and canonical names that make identifiers have different constants.
-/

namespace Rebac.Bindings

open Naming (Member isSnake)
open Schema (TypeDefinition Relation WellNamed)

/-- The tables of the selectors of a type. -/
def TypePlan.tables (p : TypePlan) : List SelectorTable :=
  match p.form with
  | .marker => []
  | .resource direct (.group group) => [p.selectorTable direct (.group group), p.groupTable group]
  | .resource direct perform => [p.selectorTable direct perform]

/-- The tables of a type: that of its selector, and that of the group where there is one. -/
theorem eq_of_mem_tables {p : TypePlan} {direct computed : List RelationPlan}
    (form : p.form = .resource direct (Perform.of computed)) {table : SelectorTable}
    (mem : table ∈ p.tables) :
    table = p.selectorTable direct (Perform.of computed) ∨
      table = p.groupTable computed ∧ Perform.of computed = .group computed := by
  unfold TypePlan.tables at mem
  rw [form] at mem
  rcases Perform.of_cases computed with ⟨-, kind⟩ | ⟨d, -, kind⟩ | ⟨-, kind⟩ <;> rw [kind] at mem ⊢
  · exact .inl (List.mem_singleton.mp mem)
  · exact .inl (List.mem_singleton.mp mem)
  · rcases List.mem_cons.mp mem with own | group
    · exact .inl own
    · exact .inr ⟨List.mem_singleton.mp group, rfl⟩

namespace SelectorTable

/-- No variant and no constant of a table comes twice. -/
structure Unambiguous (t : SelectorTable) : Prop where
  variants : (t.arms.map (·.variant)).Nodup
  constants : (t.constants.map (·.constant)).Nodup

theorem Unambiguous.chain?_eq {t : SelectorTable} (unambiguous : t.Unambiguous) {variant : String}
    {entry : ChainEntry} (arm : ⟨variant, .constant entry.constant⟩ ∈ t.arms)
    (mem : entry ∈ t.constants) :
    t.chain? variant = some (entry.steps.map (Step.member (t.elements.getD []))) := by
  have leads := Keyed.find?_of_nodup_keys unambiguous.variants arm
  have holds := Keyed.find?_of_nodup_keys unambiguous.constants mem
  simp only [chain?, leads, constant?, holds, Option.map_some]

end SelectorTable

/-! ## Constants -/

theorem map_constant_groupEntries (index : Nat) (group : List RelationPlan) :
    (groupEntries index group).map (·.constant) = group.map fun r => chainConstant r.name := by
  induction group generalizing index with
  | nil => rfl
  | cons r rest ih => rw [groupEntries, List.map_cons, ih]; rfl

/-- The constant of a relation of a group counts from the first one. -/
theorem mem_groupEntries {group : List RelationPlan} {k : Nat} {r : RelationPlan}
    (place : group[k]? = some r) (index : Nat) :
    ⟨chainConstant r.name, [.named performName, .shared (index + k)]⟩ ∈
      groupEntries index group := by
  induction group generalizing index k with
  | nil => cases place
  | cons first rest ih =>
    cases k with
    | zero =>
      cases place
      exact List.mem_cons_self
    | succ k =>
      have later := ih place (index + 1)
      rw [Nat.add_right_comm] at later
      exact List.mem_cons_of_mem _ later

theorem isSnake_performName : ∀ c ∈ performName.toList, isSnake c = true :=
  List.all_eq_true.mp (by decide)

/-! ## Planned relations of a loaded schema -/

section

variable {typeName : String} {relations : List Relation} {plans : List RelationPlan}
  (planned : Planned typeName relations plans) (named : WellNamed relations)

include planned named

/-- The names are in snake case, and there is no empty one. -/
theorem Planned.spelling {d : RelationPlan} (mem : d ∈ plans) :
    d.name ≠ "" ∧ ∀ c ∈ d.name.toList, isSnake c = true := by
  obtain ⟨relation, own, ok⟩ := planned.relation_of_mem mem
  obtain ⟨name, field, -⟩ := RelationPlan.of_ok.mp ok
  obtain ⟨written, canonicalName⟩ := named.canonical relation own
  have word : isIdentifier relation.name = true := isIdentifier_of_value field
  rw [name]
  refine ⟨(of_isIdentifier word).1, ?_⟩
  rw [canonicalName] at word ⊢
  exact isSnake_of_isIdentifier word

/-- The chain constants differ. -/
theorem Planned.nodup_chainConstants :
    (plans.map fun d => chainConstant d.name).Nodup := by
  have distinct : (plans.map (·.name)).Nodup := planned.names ▸ named.distinct
  rw [List.Nodup, List.pairwise_map] at distinct ⊢
  refine distinct.imp_of_mem fun {a b} memA memB differ same => differ ?_
  exact chainConstant_inj (planned.spelling named memA).2 (planned.spelling named memB).2 same

/-- A chain that ends in the name of a planned relation selects it. -/
theorem Planned.resolve?_eq {d : RelationPlan} (mem : d ∈ plans) {chain : List Member}
    {last : Member} (ends : chain.getLast? = some last) (spelt : last.name = d.name) :
    Naming.resolve? chain = some d.name := by
  obtain ⟨nonempty, snake⟩ := planned.spelling named mem
  simp only [Naming.resolve?, ends, spelt, if_neg nonempty, Naming.canonical_of_isSnake snake]

end

/-! ## The tables of a type -/

section

variable {t : TypeDefinition} {direct computed : List RelationPlan}

theorem nodup_selectorTable_variants (p : TypePlan) (planned : ResourcePlanned t direct computed) :
    ((p.selectorTable direct (Perform.of computed)).arms.map (·.variant)).Nodup := by
  have variants := planned.variants
  rcases Perform.of_cases computed with ⟨-, kind⟩ | ⟨r, -, kind⟩ | ⟨-, kind⟩ <;>
    simpa [kind, TypePlan.selectorTable, RelationPlan.arm, Perform.arms, Perform.also,
      Function.comp_def] using variants

theorem selectorTable_unambiguous (p : TypePlan) (planned : ResourcePlanned t direct computed)
    (named : WellNamed t.relations) :
    (p.selectorTable direct (Perform.of computed)).Unambiguous := by
  have constants : (direct.map fun d => chainConstant d.name).Nodup :=
    planned.directPlanned.nodup_chainConstants named.direct
  constructor
  case variants => exact nodup_selectorTable_variants p planned
  case constants =>
    rw [TypePlan.selectorTable, List.map_append, List.map_map]
    rcases Perform.of_cases computed with ⟨-, kind⟩ | ⟨r, only, kind⟩ | ⟨-, kind⟩
    · rw [kind, Perform.entries, List.map_nil, List.append_nil]
      exact constants
    · -- The constant of the scalar differs from the others because its name is reserved.
      rw [kind, Perform.entries, List.map_singleton]
      refine List.nodup_append.mpr ⟨constants, by simp, ?_⟩
      intro a own b scalar same
      obtain ⟨d, mem, rfl⟩ := List.mem_map.mp own
      rw [List.mem_singleton.mp scalar] at same
      have snake := (planned.directPlanned.spelling named.direct mem).2
      have reserved : d.name = performName := chainConstant_inj snake isSnake_performName same
      exact planned.unreserved (by simp [only]) d mem reserved
    · rw [kind, Perform.entries, List.map_nil, List.append_nil]
      exact constants

theorem groupTable_unambiguous (p : TypePlan) (planned : ResourcePlanned t direct computed)
    (named : WellNamed t.relations) (grouped : Perform.of computed = .group computed) :
    (p.groupTable computed).Unambiguous := by
  constructor
  case variants =>
    have variants := planned.groupVariants
    rw [grouped] at variants
    simpa [TypePlan.groupTable, RelationPlan.arm, Perform.members, Function.comp_def] using variants
  case constants =>
    rw [TypePlan.groupTable, map_constant_groupEntries]
    exact planned.computedPlanned.nodup_chainConstants named.computed

end

end Rebac.Bindings
