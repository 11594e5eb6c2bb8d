import Rebac.Proofs.Bindings.ConditionPlan
import Rebac.Proofs.Bindings.Declaration
import Rebac.Proofs.Bindings.Entity
import Rebac.Proofs.Bindings.Outline
import Rebac.Proofs.Bindings.SelectorTable
import Rebac.Proofs.Text.Quoted

/-!
# The spelling of bindings

What the names in bindings are made of. Planned names are words, perhaps raw, and literals have
their newlines escaped, so whatever is built from these stays on one line.
-/

namespace Rebac.Bindings

/-! ## Names that can be read -/

/-- The identifiers of a relation can be read back. -/
structure RelationPlan.Spelt (r : RelationPlan) : Prop where
  field : IsValue r.field
  variant : IsWord r.variant
  constant : IsWord (chainConstant r.name)

theorem isIdentifierPart_toUpper {c : Char} (part : isIdentifierPart c = true) :
    isIdentifierPart c.toUpper = true := by
  rw [isIdentifierPart_iff, Text.isUpper_iff, Naming.isSnake_iff] at part ⊢
  rw [Text.toNat_toUpper]
  split
  next small =>
    have := Text.isLower_iff.mp small
    omega
  next => exact part

/-- The constant of a name that is a word is a word: it is the name in capitals, with an end of
capitals and an underscore. -/
theorem isWord_chainConstant {name : String} (word : IsWord name) :
    IsWord (chainConstant name) := by
  have upper : IsWord (Text.asciiUpper name) := by
    refine ⟨fun empty => word.nonempty ?_, fun c mem => ?_⟩
    · have chars := congrArg String.toList empty
      rw [Text.asciiUpper, String.toList_ofList] at chars
      exact String.toList_eq_nil_iff.mp (List.map_eq_nil_iff.mp chars)
    · rw [Text.asciiUpper, String.toList_ofList] at mem
      obtain ⟨d, own, rfl⟩ := List.mem_map.mp mem
      exact isIdentifierPart_toUpper (word.chars d own)
  exact upper.append (List.all_eq_true.mp (by decide))

/-- Only words are identifiers of types. -/
theorem isWord_of_type {name identifier : String}
    (named : typeIdentifier? name = some identifier) : IsWord identifier :=
  .of_isIdentifier (isIdentifier_of_typeIdentifier named)

/-- The identifiers of planned relations can be read back, since each was checked when it was
planned. -/
theorem Planned.spelt {typeName : String} {relations : List Schema.Relation}
    {plans : List RelationPlan} (planned : Planned typeName relations plans) :
    ∀ r ∈ plans, r.Spelt := by
  intro r mem
  obtain ⟨relation, -, ok⟩ := planned.relation_of_mem mem
  obtain ⟨name, field, variant⟩ := RelationPlan.of_ok.mp ok
  refine ⟨⟨_, field⟩, isWord_of_type variant, ?_⟩
  rw [name]
  exact isWord_chainConstant (.of_isIdentifier (isIdentifier_of_value field))

/-- So can those of the relations in a group. A single computed relation has no identifiers of its
own, as it is bound under a reserved name. -/
theorem ResourcePlanned.members_spelt {t : Schema.TypeDefinition}
    {direct computed : List RelationPlan} (planned : ResourcePlanned t direct computed) :
    ∀ r ∈ (Perform.of computed).members, r.Spelt := by
  rcases Perform.of_cases computed with ⟨-, kind⟩ | ⟨r, -, kind⟩ | ⟨-, kind⟩ <;> rw [kind]
  · nofun
  · nofun
  · exact planned.computedPlanned.spelt

section

variable {p : TypePlan} (word : IsWord p.identifier)

include word

theorem isWord_selectorName : IsWord p.selectorName :=
  word.append (List.all_eq_true.mp (by decide))

theorem isWord_groupName : IsWord p.groupName :=
  word.append (List.all_eq_true.mp (by decide))

theorem isWord_groupSelectorName : IsWord p.groupSelectorName :=
  word.append (List.all_eq_true.mp (by decide))

end

/-! ## Names in tables -/

/-- The constants of a resource hold the chains of its direct relations and of the scalar. -/
theorem of_mem_selectorTable {p : TypePlan} {direct : List RelationPlan} {perform : Perform}
    {e : ChainEntry} (mem : e ∈ (p.selectorTable direct perform).constants) :
    (∃ r ∈ direct, e.constant = chainConstant r.name) ∨
      e.constant = chainConstant performName := by
  rcases List.mem_append.mp mem with own | ruled
  · obtain ⟨r, inside, rfl⟩ := List.mem_map.mp own
    exact .inl ⟨r, inside, rfl⟩
  · cases perform with
    | absent | group => cases ruled
    | scalar r =>
      rw [List.mem_singleton.mp ruled]
      exact .inr rfl

/-- The constants of a group hold the chains of its relations. -/
theorem of_mem_groupTable {p : TypePlan} {group : List RelationPlan} {e : ChainEntry}
    (mem : e ∈ (p.groupTable group).constants) :
    ∃ r ∈ group, e.constant = chainConstant r.name := by
  have own : e.constant ∈ (groupEntries 0 group).map (·.constant) := List.mem_map_of_mem mem
  rw [map_constant_groupEntries] at own
  obtain ⟨r, inside, same⟩ := List.mem_map.mp own
  exact ⟨r, inside, same.symm⟩

/-- The identifiers of a table can be read back. -/
structure SelectorTable.Spelt (t : SelectorTable) : Prop where
  owner : IsWord t.owner
  constants : ∀ e ∈ t.constants, IsWord e.constant
  variants : ∀ a ∈ t.arms, IsWord a.variant
  targets : ∀ a ∈ t.arms, ∀ name, a.target = .constant name → IsWord name

/-- Everything that the table of a selector writes can be read back: its own name, its variants and
its constants. -/
theorem spelt_selectorTable {p : TypePlan} (word : IsWord p.identifier)
    {direct : List RelationPlan} (perform : Perform) (spelt : ∀ r ∈ direct, r.Spelt) :
    (p.selectorTable direct perform).Spelt := by
  have reserved : IsWord (chainConstant performName) :=
    isWord_chainConstant (.of_isIdentifier (by decide))
  have computed : ∀ a ∈ perform.arms, IsWord a.variant ∧
      ∀ name, a.target = .constant name → IsWord name := by
    have variant : IsWord "Perform" := .of_isIdentifier (by decide)
    intro a mem
    cases perform with
    | absent => cases mem
    | scalar r =>
      rw [List.mem_singleton.mp mem]
      exact ⟨variant, fun name same => Target.constant.inj same ▸ reserved⟩
    | group rs =>
      rw [List.mem_singleton.mp mem]
      exact ⟨variant, nofun⟩
  have arms : ∀ a ∈ (p.selectorTable direct perform).arms, IsWord a.variant ∧
      ∀ name, a.target = .constant name → IsWord name := by
    intro a mem
    rcases List.mem_append.mp mem with own | ruled
    · obtain ⟨r, inside, rfl⟩ := List.mem_map.mp own
      exact ⟨(spelt r inside).variant,
        fun name same => Target.constant.inj same ▸ (spelt r inside).constant⟩
    · exact computed a ruled
  refine ⟨isWord_selectorName word, ?_, fun a mem => (arms a mem).1, fun a mem => (arms a mem).2⟩
  intro e mem
  rcases of_mem_selectorTable mem with ⟨r, inside, same⟩ | same
  · exact same ▸ (spelt r inside).constant
  · exact same ▸ reserved

/-- The same holds of the table of a group. -/
theorem spelt_groupTable {p : TypePlan} (word : IsWord p.identifier) {group : List RelationPlan}
    (spelt : ∀ r ∈ group, r.Spelt) : (p.groupTable group).Spelt where
  owner := isWord_groupSelectorName word
  constants e mem := by
    obtain ⟨r, inside, same⟩ := of_mem_groupTable mem
    exact same ▸ (spelt r inside).constant
  variants a mem := by
    obtain ⟨r, inside, rfl⟩ := List.mem_map.mp mem
    exact (spelt r inside).variant
  targets a mem name same := by
    obtain ⟨r, inside, rfl⟩ := List.mem_map.mp mem
    exact Target.constant.inj same ▸ (spelt r inside).constant

/-! ## On one line -/

/-- A name has no character beside those of identifiers and the mark of a raw one. -/
theorem IsName.lacks {c : Char} {identifier : String} (name : IsName identifier)
    (other : isIdentifierPart c = false) (mark : c ≠ '#') : Lacks c identifier := by
  intro mem
  rcases name.chars c mem with part | same
  · rw [other] at part
    cases part
  · exact mark same

theorem IsValue.lacks {c : Char} {identifier : String} (value : IsValue identifier)
    (other : isIdentifierPart c = false) (mark : c ≠ '#') : Lacks c identifier := by
  obtain ⟨_, named⟩ := value
  exact (isName_of_value named).lacks other mark

/-- A word has no character beside those of identifiers. -/
theorem IsWord.lacks {c : Char} {name : String} (word : IsWord name)
    (other : isIdentifierPart c = false) : Lacks c name := by
  intro mem
  rw [word.chars c mem] at other
  cases other

@[simp]
theorem lacks_newline_quoted (text : String) : Lacks '\n' (Text.quoted text) :=
  Text.newline_not_mem_quoted text

@[simp]
theorem lacks_newline_repr (n : Nat) : Lacks '\n' n.repr := by
  rw [Lacks, Nat.toList_repr]
  exact Text.newline_not_mem_toDigits (by decide) (by decide) n

@[simp]
theorem lacks_newline_quotedNames (names : List String) : Lacks '\n' (quotedNames names) := by
  refine .intercalate ?_ (by decide) (by decide)
  intro text mem
  obtain ⟨name, -, rfl⟩ := List.mem_map.mp mem
  exact lacks_newline_quoted name

/-- A member of a chain is on one line: the names in it are quoted. -/
theorem lacks_newline_step (s : Step) : Lacks '\n' s.text := by
  have member : Lacks '\n' memberType := .literal (by decide)
  have positional {index : Nat} {names : String} (one : Lacks '\n' names) :
      Lacks '\n' (positionalText index names) := by
    have begun := member.append (.literal (by decide) : Lacks '\n' "::Positional \x7b index: ")
    have placed := begun.append (lacks_newline_repr index)
    exact ((placed.append (.literal (by decide))).append one).append (.literal (by decide))
  cases s with
  | named name =>
    have begun := member.append (.literal (by decide) : Lacks '\n' "::Named(")
    exact (begun.append (lacks_newline_quoted name)).append (.literal (by decide))
  | element index names =>
    have listed : Lacks '\n' (quotedNames names) := lacks_newline_quotedNames names
    exact positional (.append (.append (.literal (by decide)) listed) (.literal (by decide)))
  | shared index => exact positional (.literal (by decide))

theorem lacks_newline_signature {arguments : List ArgumentPlan}
    (values : ∀ a ∈ arguments, IsValue a.argument) : Lacks '\n' (signature arguments) := by
  refine .intercalate ?_ (by decide) (by decide)
  intro text mem
  obtain ⟨a, own, rfl⟩ := List.mem_map.mp mem
  have argument : Lacks '\n' a.argument := (values a own).lacks (by decide) (by decide)
  have type : Lacks '\n' (argumentType a.kind) := by cases a.kind <;> exact .literal (by decide)
  exact (argument.append (.literal (by decide))).append type

theorem lacks_newline_entries {arguments : List ArgumentPlan}
    (values : ∀ a ∈ arguments, IsValue a.argument) :
    Lacks '\n' (", ".intercalate (arguments.map (·.entryText))) := by
  refine .intercalate ?_ (by decide) (by decide)
  intro text mem
  obtain ⟨a, own, rfl⟩ := List.mem_map.mp mem
  have argument : Lacks '\n' a.argument := (values a own).lacks (by decide) (by decide)
  have writer : Lacks '\n' (valueWriter a.kind) := by cases a.kind <;> exact .literal (by decide)
  have begun : Lacks '\n' ("(" ++ Text.quoted a.key ++ ", ::fluentfga::condition::") :=
    .append (.append (.literal (by decide)) (lacks_newline_quoted a.key)) (.literal (by decide))
  have called := (begun.append writer).append (.literal (by decide) : Lacks '\n' "(")
  exact (called.append argument).append (.literal (by decide))

/-- A context is on one line too, whether it has entries or not. -/
theorem lacks_newline_contextText {arguments : List ArgumentPlan}
    (values : ∀ a ∈ arguments, IsValue a.argument) : Lacks '\n' (contextText arguments) := by
  unfold contextText
  split
  · exact .literal (by decide)
  · exact .append (.append (.literal (by decide)) (lacks_newline_entries values))
      (.literal (by decide))

/-- A name that makes an identifier has no character that its canonical form keeps, unless that is
a character of identifiers. It may have blanks, and newlines among them. -/
theorem lacks_of_canonical {c : Char} {name identifier : String}
    (kept : ∀ prev next, Naming.canonicalStep prev c next = [c])
    (other : isIdentifierPart c = false)
    (named : valueIdentifier? (Naming.canonical name) = some identifier) : Lacks c name := by
  intro inside
  have word := IsWord.of_isIdentifier (isIdentifier_of_value named)
  have part := word.chars c (Naming.mem_canonical kept inside)
  rw [other] at part
  cases part

end Rebac.Bindings
