import Mathlib.Data.List.DropRight
import Rebac.Proofs.Bindings.Plain

/-!
# Capabilities in bindings

The lines of a text that make a type a resource or an accessor. The parts of bindings are gone
through one by one: no name, comment or literal in them makes such a line, so a type's own lines are
the only ones.
-/

namespace Rebac.Bindings

/-- What the bindings can make of a type beside an entity. -/
inductive Capability where
  | resource
  | accessor
deriving DecidableEq, Repr

namespace Capability

/-- The beginning of a line that gives a capability. -/
def lead : Capability → String
  | .resource => "impl ::fluentfga::Resource for "
  | .accessor => "impl ::fluentfga::Accessor for "

/-- The line that gives a capability to a type. -/
def line (k : Capability) (identifier : String) : String := k.lead ++ identifier ++ " \x7b\x7d"

/-- Whether a line gives a capability: it has that beginning, after spaces. -/
def heads (k : Capability) (line : List Char) : Bool :=
  k.lead.toList.isPrefixOf (line.dropWhile (· = ' '))

/-- The lines of a text that give a capability. -/
def linesOf (k : Capability) (text : String) : List (List Char) :=
  (text.toList.splitOn '\n').filter k.heads

variable {k : Capability}

theorem linesOf_empty : k.linesOf "" = [] := by
  cases k <;> rfl

/-- A newline ends a line, so what follows has its own lines. -/
theorem linesOf_append_newline (a b : String) :
    k.linesOf (a ++ "\n" ++ b) = k.linesOf a ++ k.linesOf b := by
  rw [linesOf, splitOn_append_newline, List.filter_append, linesOf, linesOf]

/-- A text on one line gives a capability with that line or not at all. -/
theorem linesOf_line {text : String} (one : Lacks '\n' text) :
    k.linesOf text = if k.heads text.toList then [text.toList] else [] := by
  rw [linesOf, List.splitOn_eq_singleton one]
  cases heads : k.heads text.toList <;> simp [heads]

/-- A line with another beginning gives no capability. -/
theorem heads_other {line : List Char} (c : Char) (first : line.head? = some c)
    (other : c ≠ ' ' ∧ c ≠ 'i') : k.heads line = false := by
  obtain ⟨rest, chars⟩ := List.head?_eq_some_iff.mp first
  have kept : (c :: rest).dropWhile (· = ' ') = c :: rest :=
    List.dropWhile_cons_of_neg (by simpa using other.1)
  have begins : ∃ later, k.lead.toList = 'i' :: later := by cases k <;> exact ⟨_, rfl⟩
  obtain ⟨later, lead⟩ := begins
  rw [heads, chars, kept, lead, List.isPrefixOf, beq_false_of_ne (Ne.symm other.2), Bool.false_and]

/-- A line without a colon gives none either. -/
theorem heads_of_colon {line : List Char} (plain : ':' ∉ line) : k.heads line = false := by
  rw [Bool.eq_false_iff]
  intro heads
  have colon : ':' ∈ k.lead.toList := by cases k <;> decide
  have lead := List.isPrefixOf_iff_prefix.mp heads
  exact plain ((List.dropWhile_sublist _).subset (lead.subset colon))

/-- A text gives a capability where one of its rows does. -/
theorem linesOf_eq_nil {text : String} :
    k.linesOf text = [] ↔ ∀ row ∈ rows text, k.heads row = false := by
  have unspaced (line : List Char) : k.heads (line.dropWhile (· = ' ')) = k.heads line := by
    rw [heads, heads, List.dropWhile_idempotent]
  rw [linesOf, List.filter_eq_nil_iff, rows, List.forall_mem_map]
  refine forall_congr' fun line => forall_congr' fun _ => ?_
  rw [unspaced, Bool.not_eq_true]

end Capability

/-! ## Calm pieces -/

/-- Pieces none of which gives a capability. -/
def Calm (k : Capability) (pieces : List Piece) : Prop :=
  ∀ p ∈ pieces, k.heads p.shown.toList = false

/-- Pieces that are read as calm ones leave the lines of what follows. -/
theorem linesOf_render {k : Capability} {pieces : List Piece} (calm : Calm k (reread pieces))
    (depth : Nat) (rest : String) : k.linesOf (render depth pieces ++ rest) = k.linesOf rest := by
  induction pieces generalizing depth with
  | nil => simp [render]
  | cons p pieces ih =>
    rw [reread_cons] at calm
    obtain ⟨here, later⟩ := List.forall_mem_append.mp calm
    obtain ⟨d, shows⟩ := p.exists_render depth
    have silent : k.linesOf (indentation d ++ p.shown) = [] := by
      rw [Capability.linesOf_eq_nil, rows_indentation, rows_eq]
      exact List.forall_mem_map.mpr here
    rw [render, String.append_assoc, shows, Capability.linesOf_append_newline, silent,
      List.nil_append]
    exact ih later _

/-- A text without a colon is read as calm pieces, on however many lines it stands. -/
theorem calm_of_colon {k : Capability} {text : String} (plain : Lacks ':' text) :
    Calm k (outlineOf text) := by
  refine List.forall_mem_map.mpr fun row mem => Capability.heads_of_colon ?_
  rw [Piece.shown_ofRow]
  exact lacks_of_mem_rows mem plain

namespace Calm

variable {k : Capability}

theorem nil : Calm k [] := nofun

/-- Pieces are calm where each of them is. -/
theorem append {a b : List Piece} (first : Calm k a) (second : Calm k b) : Calm k (a ++ b) :=
  List.forall_mem_append.mpr ⟨first, second⟩

/-- A line that begins like no implementation. -/
theorem line {text : String} {rest : List Piece} (c : Char) (first : text.toList.head? = some c)
    (other : c ≠ ' ' ∧ c ≠ 'i') (later : Calm k rest) : Calm k (.line text :: rest) :=
  List.forall_mem_cons.mpr ⟨Capability.heads_other c first other, later⟩

theorem blank {rest : List Piece} (later : Calm k rest) : Calm k (.blank :: rest) := by
  have empty : k.heads Piece.blank.shown.toList = false := by cases k <;> rfl
  exact List.forall_mem_cons.mpr ⟨empty, later⟩

theorem lines {α : Type} {text : α → String} {xs : List α}
    (other : ∀ x ∈ xs, k.heads (text x).toList = false) :
    Calm k (xs.map fun x => .line (text x)) :=
  List.forall_mem_map.mpr other

theorem block {heading : String} {body : List Piece}
    (other : k.heads (heading ++ " \x7b").toList = false) (inside : Calm k body) :
    Calm k (block heading body) := by
  have brace : k.heads Piece.leave.shown.toList = false := by cases k <;> rfl
  exact List.forall_mem_cons.mpr
    ⟨other, inside.append (List.forall_mem_singleton.mpr brace)⟩

theorem spaced {parts : List (List Piece)} (calm : ∀ part ∈ parts, Calm k part) :
    Calm k (spaced parts) := by
  cases parts with
  | nil => exact nil
  | cons first parts =>
    obtain ⟨here, later⟩ := List.forall_mem_cons.mp calm
    rw [spaced_cons]
    refine here.append fun p mem => ?_
    obtain ⟨part, own, inside⟩ := List.mem_flatMap.mp mem
    exact (later part own).blank p inside

end Calm

/-! ## The parts of a type -/

section

variable {k : Capability}

/-- A documented item with its attribute, and the block under its heading. -/
theorem calm_item {comment abilities heading : String} {body : List Piece}
    (slash : comment.toList.head? = some '/') (first : heading.toList.head? = some 'p')
    (inside : Calm k body) :
    Calm k (.line comment :: deriveLine abilities :: block heading body) :=
  .line '/' slash (by decide) (.line '#' (by simp) (by decide)
    (.block (Capability.heads_other 'p' (by simp [first]) (by decide)) inside))

theorem calm_fields (relations : List RelationPlan) :
    Calm k (relations.map fun r => fieldLine r.field stringType) :=
  .lines fun r _ => Capability.heads_other 'p' (by simp) (by decide)

/-- A variant is a word, and has no colon. -/
theorem calm_variants {relations : List RelationPlan} (spelt : ∀ r ∈ relations, r.Spelt) :
    Calm k (relations.map fun r => .line (r.variant ++ ",")) := by
  refine .lines fun r mem => Capability.heads_of_colon ?_
  have variant : Lacks ':' r.variant := (spelt r mem).variant.lacks (by decide)
  exact variant.append (.literal (by decide))

theorem calm_markerStruct (p : TypePlan) : Calm k (markerStruct p) :=
  .line '/' (by simp) (by decide) (.line '#' (by simp) (by decide)
    (.line 'p' (by simp) (by decide) .nil))

theorem calm_resourceStruct (p : TypePlan) (direct : List RelationPlan) (perform : Perform) :
    Calm k (resourceStruct p direct perform) := by
  have computed : Calm k (perform.fieldLines p.groupName) := by
    cases perform with
    | absent => exact .nil
    | scalar | group => exact .line 'p' (by simp) (by decide) .nil
  exact calm_item (by simp) (by simp) ((calm_fields direct).append computed)

theorem calm_selectorEnum (p : TypePlan) {direct : List RelationPlan} (perform : Perform)
    (spelt : ∀ r ∈ direct, r.Spelt) : Calm k (selectorEnum p direct perform) := by
  have computed : Calm k (perform.variantLines p.groupSelectorName) := by
    cases perform with
    | absent => exact .nil
    | scalar | group => exact .line 'P' (by simp) (by decide) .nil
  exact calm_item (by simp) (by simp) ((calm_variants spelt).append computed)

/-- The implementation that holds constants names its type with no path in front, so it has no
colon. -/
theorem calm_constantParts {t : SelectorTable} (spelt : t.Spelt) :
    ∀ part ∈ t.constantParts, Calm k part := by
  have elements : Calm k (t.elements.map elementsLine).toList := by
    cases t.elements with
    | none => exact .nil
    | some names => exact .line 'c' (by simp) (by decide) .nil
  have constants : Calm k (t.constants.map ChainEntry.line) :=
    .lines fun e _ => Capability.heads_other 'c' (by simp) (by decide)
  have own : Lacks ':' t.owner := spelt.owner.lacks (by decide)
  have heading : Lacks ':' ("impl " ++ t.owner ++ " \x7b") :=
    .append (.append (.literal (by decide)) own) (.literal (by decide))
  intro part mem
  simp only [SelectorTable.constantParts] at mem
  split at mem
  · cases mem
  · rw [List.mem_singleton.mp mem]
    exact .block (Capability.heads_of_colon heading) (elements.append constants)

/-- The implementations that select members and name relations give no capability. -/
theorem calm_membersImpl (t : SelectorTable) : Calm k t.membersImpl := by
  have arms : Calm k (t.arms.map Arm.line) := by
    refine .lines fun a _ => Capability.heads_other 'S' ?_ (by decide)
    cases a.target <;> simp
  have heading : k.heads
      ("impl ::fluentfga::RelationSelector for " ++ t.owner ++ " \x7b").toList = false := by
    cases k <;> simp [Capability.heads, Capability.lead, List.isPrefixOf]
  exact .block heading (.block (Capability.heads_other 'f' (by simp) (by decide))
    (.block (Capability.heads_other 'm' (by simp) (by decide)) arms))

/-- The implementations that name relations and entities begin like those that give capabilities,
and differ from them in the middle of the path. -/
theorem calm_relationNameImpl (resource selector : String) :
    Calm k (relationNameImpl resource selector) := by
  have heading : k.heads ("impl ::fluentfga::RelationName<" ++ resource ++ "> for " ++ selector ++
      " \x7b").toList = false := by
    cases k <;> simp [Capability.heads, Capability.lead, List.isPrefixOf]
  exact .block heading (.block (Capability.heads_other 'f' (by simp) (by decide))
    (.line ':' (by simp) (by decide) .nil))

/-- No part of a resource gives a capability, but for the line that makes it a resource. -/
theorem calm_resourceParts {p : TypePlan} (word : IsWord p.identifier) {direct : List RelationPlan}
    {perform : Perform} (spelt : ∀ r ∈ direct, r.Spelt)
    (grouped : ∀ r ∈ perform.members, r.Spelt) :
    ∀ part ∈ resourceParts p direct perform, Calm k part := by
  have struct : Calm k (resourceStruct p direct perform) := calm_resourceStruct p direct perform
  have selector : Calm k (selectorEnum p direct perform) := calm_selectorEnum p perform spelt
  have constants : ∀ part ∈ (p.selectorTable direct perform).constantParts, Calm k part :=
    calm_constantParts (spelt_selectorTable word perform spelt)
  have members : Calm k (p.selectorTable direct perform).membersImpl := calm_membersImpl _
  have name : Calm k (relationNameImpl p.identifier p.selectorName) := calm_relationNameImpl _ _
  intro part mem
  cases perform with
  | absent | scalar =>
    simp only [resourceParts, List.mem_append, List.mem_cons, List.not_mem_nil, or_false] at mem
    rcases mem with ((rfl | rfl) | mem) | rfl | rfl
    · exact struct
    · exact selector
    · exact constants part mem
    · exact members
    · exact name
  | group group =>
    simp only [resourceParts, List.mem_append, List.mem_cons, List.not_mem_nil, or_false] at mem
    rcases mem with (((rfl | rfl | rfl | rfl) | mem) | mem) | rfl | rfl | rfl | rfl
    · exact struct
    · exact calm_item (by simp) (by simp) (calm_fields group)
    · exact selector
    · exact calm_item (by simp) (by simp) (calm_variants grouped)
    · exact constants part mem
    · exact calm_constantParts (spelt_groupTable word grouped) part mem
    · exact members
    · exact calm_membersImpl _
    · exact name
    · exact calm_relationNameImpl _ _

theorem calm_entityImpl (p : TypePlan) : Calm k (entityImpl p) := by
  have heading : k.heads ("impl ::fluentfga::Entity for " ++ p.identifier ++ " \x7b").toList =
      false := by
    cases k <;> simp [Capability.heads, Capability.lead, List.isPrefixOf]
  exact .block heading (.line 'c' (by simp) (by decide) .nil)

/-! ## The parts of conditions -/

/-- The name may hold newlines, after which the text is no comment any more, but it has no colon. -/
theorem calm_comment {p : ConditionPlan} (planned : ConditionPlanned p) :
    Calm k (reread p.comment) := by
  have name : Lacks ':' p.condition.name :=
    lacks_of_canonical (fun _ _ => rfl) (by decide) planned.named
  have commented : Calm k (outlineOf ("/// Condition `" ++ p.condition.name ++ "`.")) :=
    calm_of_colon (.append (.append (.literal (by decide)) name) (.literal (by decide)))
  obtain ⟨below, read, comments⟩ := exists_reread_comment p
  rw [read]
  refine commented.append fun piece mem => ?_
  obtain ⟨text, rfl, slash⟩ := comments piece mem
  exact Capability.heads_other '/' slash (by decide)

/-- Inside the module of a condition every line begins like a comment, an item or an expression. -/
theorem calm_body (p : ConditionPlan) : Calm k p.body := by
  have context : Calm k [.line (contextText p.provided)] := by
    unfold contextText
    split
    · exact .line ':' (by simp) (by decide) .nil
    · exact .line '[' (by simp) (by decide) .nil
  refine .spaced ?_
  intro part mem
  simp only [List.mem_cons, List.not_mem_nil, or_false] at mem
  rcases mem with rfl | rfl | rfl
  · exact .line '/' (by simp) (by decide) (.line 'p' (by simp) (by decide) .nil)
  · exact .line '/' (by simp) (by decide)
      (.block (Capability.heads_other 'p' (by simp) (by decide))
        (.line ':' (by simp) (by decide) .nil))
  · exact .line '/' (by simp) (by decide)
      (.block (Capability.heads_other 'p' (by simp) (by decide)) context)

/-- Nothing that is read of the conditions gives a capability, even where the name of one has
newlines. -/
theorem calm_conditionParts {plans : List ConditionPlan}
    (planned : ∀ p ∈ plans, ConditionPlanned p) :
    ∀ part ∈ conditionParts plans, Calm k (reread part) := by
  intro part mem
  unfold conditionParts at mem
  split at mem
  · cases mem
  · rw [List.mem_singleton.mp mem, reread_modules]
    refine .line '/' (by simp) (by decide)
      (.block (Capability.heads_other 'p' (by simp) (by decide)) (.spaced ?_))
    intro pieces own
    obtain ⟨p, inside, rfl⟩ := List.mem_map.mp own
    rw [reread_conditionPieces (planned p inside)]
    exact (calm_comment (planned p inside)).append
      (.block (Capability.heads_other 'p' (by simp) (by decide)) (calm_body p))

end

end Rebac.Bindings
